import Retheme.Expression.Evaluate
import Retheme.Proofs.Expression.RoundTrip
import Retheme.Proofs.Text.Pieces

/-!
# Calls around an argument

A call with one of its arguments left out is a frame, and frames inside of each
other surround an argument at any depth. Every argument at a path of places
stands in frames (`exists_nests`). Where the parser finds one solid text it finds
any other in its place, whatever commas and brackets that has in its quotes
(`Nests.argumentAt?`), and reads everything around it as before
(`Nests.parseArgument`).
-/

namespace Retheme.Expression

open Nesting

-- ---------------------------------------------------------------------------
-- Solid texts
-- ---------------------------------------------------------------------------

theorem exists_of_callParts? {text name inner : Text} (h : callParts? text = some (name, inner)) :
    ∃ (head : Identifier) (gap : Blanks), head.text = name ∧
      text = head.text ++ gap.text ++ '(' :: (inner ++ [')']) ∧
      passes? .round none top inner = some top := by
  cases text with
  | nil => cases h
  | cons c rest =>
    rw [callParts?] at h
    split at h
    · next hc =>
      split at h
      · next body hb =>
        split at h
        · next i hi =>
          cases h
          obtain ⟨hp, d, hd, rfl⟩ := passes?_of_inside? hi
          obtain rfl : d = ')' := by simpa [Brackets.round] using hd
          refine ⟨⟨c :: rest.takeWhile Text.isNameChar, ?_⟩,
            ⟨(rest.dropWhile Text.isNameChar).takeWhile Text.isBlank,
              fun _ => List.mem_takeWhile_imp⟩, rfl, ?_, hp⟩
          · simp only [isIdentifier, hc, Bool.true_and, List.all_eq_true]
            exact fun _ => List.mem_takeWhile_imp
          · rw [← hb]
            simp
        · cases h
      · cases h
    · cases h

/-- A text that every reader passes as a whole at any depth, with no blanks at its ends. -/
structure IsSolid (text : Text) : Prop where
  passes : ∀ {brackets : Brackets} {separator : Option Char}, Reads brackets separator →
    ∀ depth, passes? brackets separator ⟨depth, none⟩ text = some ⟨depth, none⟩
  strip_eq : text.strip = text
  ne_nil : text ≠ []

theorem Written.isSolid (arg : Written) : IsSolid arg.text :=
  ⟨fun hr depth => arg.passes hr depth, arg.strip_text, arg.text_ne_nil⟩

theorem passes?_of_splitArguments {text : Text} {pieces : List Text}
    (h : splitArguments text = .ok pieces) :
    passes? .all none top text = some top ∧
      pieces = dropEmptyLast ((top.split .all ',' text).map Text.strip) := by
  rw [splitArguments] at h
  split at h
  · cases h
  · next hu =>
    split at h
    · next hb =>
      cases h
      refine ⟨?_, rfl⟩
      rw [passes?_of_firstUnopened?_eq_none hu, hb]
    · cases h

theorem splitArguments_of_passes {text : Text} (h : passes? .all none top text = some top) :
    splitArguments text = .ok (dropEmptyLast ((top.split .all ',' text).map Text.strip)) := by
  rw [splitArguments, firstUnopened?_eq_none h]
  simp only [foldl_after h, if_true]

theorem isSolid_call (name : Identifier) (gap : Blanks) {inner : Text}
    (hp : passes? .round none top inner = some top) (hb : passes? .all none top inner = some top) :
    IsSolid (name.text ++ gap.text ++ '(' :: (inner ++ [')'])) where
  passes := by
    intro brackets separator hr depth
    have hround : passes? brackets none top inner = some top := by
      cases hr with
      | closing => exact hp
      | balancing | splitting => exact hb
    have hi := @passes?_deeper brackets separator top top inner (depth + 1) (Nat.succ_pos depth)
      hround
    have hd : top.deeper (depth + 1) = ⟨depth + 1, none⟩ := by simp [deeper, top]
    rw [hd] at hi
    exact hr.call name gap hi
  strip_eq := strip_call name gap inner
  ne_nil := by simp

-- ---------------------------------------------------------------------------
-- Frames
-- ---------------------------------------------------------------------------

/-- A call with one of its arguments left out: the pieces between the commas before and behind it,
and the blanks around it. -/
structure Frame where
  name : Identifier
  gap : Blanks
  front : List Text
  lead : Blanks
  trail : Blanks
  back : List Text

namespace Frame

variable {frame : Frame} {arg other : Text}

def before (frame : Frame) : Text := frame.front.flatMap (· ++ [',']) ++ frame.lead.text

def after (frame : Frame) : Text := frame.trail.text ++ frame.back.flatMap (',' :: ·)

def list (frame : Frame) (arg : Text) : Text := frame.before ++ arg ++ frame.after

def fill (frame : Frame) (arg : Text) : Text :=
  frame.name.text ++ frame.gap.text ++ '(' :: (frame.list arg ++ [')'])

def pieces (frame : Frame) (arg : Text) : List Text :=
  frame.front ++ (frame.lead.text ++ arg ++ frame.trail.text) :: frame.back

structure Encloses (frame : Frame) (arg : Text) : Prop where
  parts : callParts? (frame.fill arg) = some (frame.name.text, frame.list arg)
  balanced : (splitArguments (frame.list arg)).isOk = true
  pieces : top.split .all ',' (frame.list arg) = frame.pieces arg
  strip_eq : arg.strip = arg

theorem join_pieces (frame : Frame) (arg : Text) :
    Text.join [','] (frame.pieces arg) = frame.list arg := by
  have hback (piece : Text) (back : List Text) :
      Text.join [','] (piece :: back) = piece ++ back.flatMap (',' :: ·) := by
    induction back generalizing piece with
    | nil => simp
    | cons next back ih => rw [Text.join_cons _ _ (by simp), ih, List.flatMap_cons]; simp
  have hfront (front : List Text) (piece : Text) (back : List Text) :
      Text.join [','] (front ++ piece :: back) =
        front.flatMap (· ++ [',']) ++ Text.join [','] (piece :: back) := by
    induction front with
    | nil => rfl
    | cons first front ih => rw [List.cons_append, Text.join_cons _ _ (by simp), ih]; simp
  rw [pieces, hfront, hback, list, before, after]
  simp

theorem passes?_replace {brackets : Brackets} (hr : Reads brackets none) {before after : Text}
    (hq : (top.behind brackets before).quote = none) (ha : IsSolid arg) (ho : IsSolid other)
    (h : passes? brackets none top (before ++ arg ++ after) = some top) :
    passes? brackets none top (before ++ other ++ after) = some top := by
  rw [List.append_assoc] at h ⊢
  obtain ⟨middle, hm, h⟩ := exists_passes?_of_append h
  rw [passes?_append hm]
  have he : middle = ⟨middle.depth, none⟩ := by
    rw [← hq, behind, foldl_after hm]
  rw [he] at h ⊢
  rw [passes?_append (ha.passes hr _)] at h
  rw [passes?_append (ho.passes hr _), h]

theorem Encloses.split_replace (h : frame.Encloses arg) (ho : IsSolid other) :
    top.behind .all frame.before = top ∧
      top.split .all ',' (frame.list other) = frame.pieces other := by
  have hpiece : passes? .all (some ',') top (frame.lead.text ++ other ++ frame.trail.text) =
      some top := by
    rw [List.append_assoc, top, passes?_append (Reads.splitting.blanks frame.lead),
      passes?_append (ho.passes .splitting 0), Reads.splitting.blanks frame.trail]
  have hcuts := cuts_split .all ',' top (frame.list arg)
  rw [h.pieces, Frame.pieces] at hcuts
  obtain ⟨hfront, hc⟩ := hcuts.replace rfl (isWhole_of_passes? hpiece) (foldl_after hpiece)
  refine ⟨?_, ?_⟩
  · have hlead : passes? .all none top frame.lead.text = some top :=
      Reads.balancing.blanks frame.lead
    rw [before, behind_append, hfront, behind, foldl_after hlead]
  · have hs := hc.split_join rfl
    rw [← Frame.pieces, join_pieces] at hs
    exact hs

theorem Encloses.passes (h : frame.Encloses arg) :
    passes? .round none top (frame.list arg) = some top ∧
      passes? .all none top (frame.list arg) = some top := by
  obtain ⟨head, gap, -, ht, hp⟩ := exists_of_callParts? h.parts
  refine ⟨hp, ?_⟩
  have hb := h.balanced
  cases hs : splitArguments (frame.list arg) with
  | error =>
    rw [hs] at hb
    cases hb
  | ok pieces => exact (passes?_of_splitArguments hs).1

theorem Encloses.isSolid (h : frame.Encloses arg) : IsSolid (frame.fill arg) :=
  isSolid_call frame.name frame.gap h.passes.1 h.passes.2

/-- Where one solid text is read as an argument, any other one is. -/
theorem Encloses.replace (h : frame.Encloses arg) (ha : IsSolid arg) (ho : IsSolid other) :
    frame.Encloses other := by
  obtain ⟨htop, hs⟩ := h.split_replace ho
  have hquote : (top.behind .round frame.before).quote = none := by
    rw [quote_behind .round .all rfl, htop]
    rfl
  have hround := passes?_replace .closing hquote ha ho h.passes.1
  have hall := passes?_replace .balancing (by rw [htop]; rfl) ha ho h.passes.2
  exact
    { parts := callParts?_of_passes frame.name frame.gap hround
      balanced := by rw [list, splitArguments_of_passes hall]; rfl
      pieces := hs
      strip_eq := ho.strip_eq }

def args (frame : Frame) (arg : Text) : List Text :=
  frame.front.map Text.strip ++ arg :: dropEmptyLast (frame.back.map Text.strip)

theorem dropEmptyLast_around (front back : List Text) (hp : arg ≠ []) :
    dropEmptyLast (front ++ arg :: back) = front ++ arg :: dropEmptyLast back := by
  rw [dropEmptyLast_append front (List.cons_ne_nil arg back)]
  cases back with
  | nil => simp [dropEmptyLast, hp]
  | cons next back => rw [dropEmptyLast_cons arg (List.cons_ne_nil next back)]

theorem dropEmptyLast_isPrefix (pieces : List Text) : dropEmptyLast pieces <+: pieces := by
  fun_induction dropEmptyLast pieces with
  | case1 => exact List.prefix_rfl
  | case2 => exact List.nil_prefix
  | case3 => exact List.prefix_rfl
  | case4 first rest _ ih => exact (List.prefix_cons_inj first).mpr ih

theorem Encloses.splitArguments (h : frame.Encloses arg) (hn : arg ≠ []) :
    splitArguments (frame.list arg) = .ok (frame.args arg) := by
  rw [splitArguments_of_passes h.passes.2, h.pieces, Frame.pieces, List.map_append, List.map_cons,
    strip_around h.strip_eq, dropEmptyLast_around _ _ hn, args]

theorem Encloses.parseArguments_eq (h : frame.Encloses arg) (hn : arg ≠ []) :
    parseArguments (frame.list arg) = do
      let first ← (frame.front.map Text.strip).mapM parseArgument
      let node ← parseArgument arg
      let rest ← (dropEmptyLast (frame.back.map Text.strip)).mapM parseArgument
      return first ++ node :: rest := by
  rw [parseArguments, h.splitArguments hn]
  show (frame.args arg).mapM parseArgument = _
  rw [args, List.mapM_append, List.mapM_cons]
  simp only [bind_assoc, pure_bind]

theorem exists_of_getElem? {text name inner arg : Text} {args : List Text} {place : Nat}
    (hc : callParts? text = some (name, inner)) (hs : Expression.splitArguments inner = .ok args)
    (ha : args[place]? = some arg) :
    ∃ frame : Frame, frame.name.text = name ∧ frame.front.length = place ∧
      frame.fill arg = text ∧ frame.Encloses arg := by
  obtain ⟨head, gap, hname, ht, -⟩ := exists_of_callParts? hc
  obtain ⟨-, rfl⟩ := passes?_of_splitArguments hs
  obtain ⟨hplace, harg⟩ := List.getElem?_eq_some_iff.mp ha
  have hlast := List.prefix_iff_getElem?.mp (dropEmptyLast_isPrefix _) place hplace
  rw [harg] at hlast
  obtain ⟨raw, hraw, rfl⟩ : ∃ raw, (top.split .all ',' inner)[place]? = some raw ∧
      raw.strip = arg := by
    simpa using hlast
  obtain ⟨lead, trail, he, hlead, htrail⟩ := Text.exists_strip raw
  let frame : Frame := ⟨head, gap, (top.split .all ',' inner).take place, ⟨lead, hlead⟩,
    ⟨trail, htrail⟩, (top.split .all ',' inner).drop (place + 1)⟩
  obtain ⟨hlt, hget⟩ := List.getElem?_eq_some_iff.mp hraw
  have hp : frame.pieces raw.strip = top.split .all ',' inner := by
    rw [Frame.pieces, List.append_assoc, ← he, ← hget, ← List.drop_eq_getElem_cons hlt,
      List.take_append_drop]
  have hl : frame.list raw.strip = inner := by
    rw [← frame.join_pieces, hp, join_split]
  have hf : frame.fill raw.strip = text := by
    rw [Frame.fill, hl, ht]
  refine ⟨frame, hname, List.length_take_of_le hlt.le, hf, ?_⟩
  exact
    { parts := by rw [hf, hl, hc, ← hname]
      balanced := by rw [hl, hs]; rfl
      pieces := by rw [hl, hp]
      strip_eq := Text.strip_strip raw }

end Frame

-- ---------------------------------------------------------------------------
-- Frames inside of frames
-- ---------------------------------------------------------------------------

/-- The text of an argument in an argument, at a path of places, all calls around which are of known
functions. -/
def argumentAt? (functions : Registry) : List Nat → Text → Option Text
  | [], text => some text
  | place :: places, text =>
    match callParts? text with
    | some (name, inner) =>
      if Entries.has name functions then
        match splitArguments inner with
        | .ok args => args[place]?.bind (argumentAt? functions places)
        | .error _ => none
      else none
    | none => none

def enclosed (frames : List Frame) (text : Text) : Text := frames.foldr Frame.fill text

/-- Every frame is a call of a known function, and what is inside of it is read as its argument. -/
def Nests (functions : Registry) : List Frame → Text → Prop
  | [], _ => True
  | frame :: frames, text =>
    Entries.has frame.name.text functions = true ∧ frame.Encloses (enclosed frames text) ∧
      Nests functions frames text

@[simp]
theorem enclosed_cons (frame : Frame) (frames : List Frame) (text : Text) :
    enclosed (frame :: frames) text = frame.fill (enclosed frames text) := rfl

def places (frames : List Frame) : List Nat := frames.map (·.front.length)

variable {functions : Registry} {frames : List Frame} {text other : Text} {node inner : Node}

theorem exists_enclosed (frames : List Frame) :
    ∃ before after, ∀ text, enclosed frames text = before ++ text ++ after := by
  induction frames with
  | nil => exact ⟨[], [], fun text => (List.append_nil _).symm⟩
  | cons frame frames ih =>
    obtain ⟨before, after, h⟩ := ih
    refine ⟨frame.name.text ++ frame.gap.text ++ '(' :: (frame.before ++ before),
      after ++ frame.after ++ [')'], fun text => ?_⟩
    rw [enclosed_cons, h, Frame.fill, Frame.list]
    simp only [List.append_assoc, List.cons_append]

theorem Nests.isSolid (h : Nests functions frames text) (ht : IsSolid text) :
    IsSolid (enclosed frames text) := by
  cases frames with
  | nil => exact ht
  | cons frame frames => exact h.2.1.isSolid

theorem Nests.replace (h : Nests functions frames text) (ht : IsSolid text) (ho : IsSolid other) :
    Nests functions frames other := by
  induction frames with
  | nil => trivial
  | cons frame frames ih =>
    have hr := ih h.2.2
    exact ⟨h.1, h.2.1.replace (h.2.2.isSolid ht) (hr.isSolid ho), hr⟩

theorem Nests.argumentAt? (h : Nests functions frames text) (ht : IsSolid text) :
    argumentAt? functions (places frames) (enclosed frames text) = some text := by
  induction frames with
  | nil => rfl
  | cons frame frames ih =>
    obtain ⟨hn, he, hr⟩ := h
    have ha : (frame.args (enclosed frames text))[frame.front.length]? =
        some (enclosed frames text) := by
      simp [Frame.args]
    rw [places, List.map_cons, enclosed_cons, Expression.argumentAt?, he.parts]
    simp only [hn, if_true, he.splitArguments (hr.isSolid ht).ne_nil, ha, Option.bind_some]
    exact ih hr

theorem exists_nests {path : List Nat} {arg : Text}
    (h : Expression.argumentAt? functions path text = some arg) :
    ∃ frames, places frames = path ∧ enclosed frames arg = text ∧ Nests functions frames arg := by
  induction path generalizing text with
  | nil =>
    cases h
    exact ⟨[], rfl, rfl, trivial⟩
  | cons place path ih =>
    rw [Expression.argumentAt?] at h
    split at h
    · next name list hc =>
      split_ifs at h with hn
      split at h
      · next args hs =>
        obtain ⟨piece, hpiece, h⟩ := Option.bind_eq_some_iff.mp h
        obtain ⟨frames, rfl, rfl, hnests⟩ := ih h
        obtain ⟨frame, rfl, rfl, rfl, he⟩ := Frame.exists_of_getElem? hc hs hpiece
        exact ⟨frame :: frames, rfl, rfl, hn, he, hnests⟩
      · cases h
    · cases h

-- ---------------------------------------------------------------------------
-- Parsing in frames
-- ---------------------------------------------------------------------------

/-- A node in which another one stands as an argument of known calls, and what becomes of it when
a third one stands there. -/
inductive Replaces (functions : Registry) (inner other : Node) : Node → Node → Prop
  | here : Replaces functions inner other inner other
  | inside {front back : List Node} {node node' : Node} {name text text' : Text}
      (hn : Entries.has name functions = true) (h : Replaces functions inner other node node') :
      Replaces functions inner other (.call name (front ++ node :: back) text)
        (.call name (front ++ node' :: back) text')

/-- Two texts are both malformed for one reason, or parsed to nodes that are related. -/
def ParsedAlike {α : Type} (rel : α → α → Prop) (parsed other : Except Malformed α) : Prop :=
  (∃ e, parsed = .error e ∧ other = .error e) ∨
    ∃ node node', parsed = .ok node ∧ other = .ok node' ∧ rel node node'

inductive ReplacesOne (rel : Node → Node → Prop) : List Node → List Node → Prop
  | mk {node node' : Node} (front back : List Node) (h : rel node node') :
      ReplacesOne rel (front ++ node :: back) (front ++ node' :: back)

theorem Frame.parsedAlike {frame : Frame} {arg other : Text} {rel : Node → Node → Prop}
    (h : frame.Encloses arg) (ho : frame.Encloses other) (hn : arg ≠ []) (hn' : other ≠ [])
    (hp : ParsedAlike rel (parseArgument arg) (parseArgument other)) :
    ParsedAlike (ReplacesOne rel) (parseArguments (frame.list arg))
      (parseArguments (frame.list other)) := by
  rw [h.parseArguments_eq hn, ho.parseArguments_eq hn']
  cases (frame.front.map Text.strip).mapM parseArgument with
  | error e => exact .inl ⟨e, rfl, rfl⟩
  | ok first =>
    obtain ⟨e, he, he'⟩ | ⟨node, node', he, he', hr⟩ := hp
    · exact .inl ⟨e, by rw [he]; rfl, by rw [he']; rfl⟩
    · rw [he, he']
      cases (dropEmptyLast (frame.back.map Text.strip)).mapM parseArgument with
      | error e => exact .inl ⟨e, rfl, rfl⟩
      | ok rest => exact .inr ⟨_, _, rfl, rfl, .mk first rest hr⟩

theorem parseArgument_eq {text name list : Text} (hc : callParts? text = some (name, list)) :
    parseArgument text = (parseArguments list).map fun args => .call name args text := by
  cases hs : splitArguments list with
  | error e =>
    rw [parseArguments, hs, parseArgument]
    split
    · next hn => rw [hc] at hn; cases hn
    · next hn =>
      rw [hc] at hn
      cases hn
      split
      · next he =>
        rw [hs] at he
        cases he
        rfl
      · next he => rw [hs] at he; cases he
  | ok pieces =>
    rw [parseArgument_of_call hc hs, parseArguments, hs]
    rfl

theorem Nests.parseArgument (h : Nests functions frames text) (ht : IsSolid text)
    (ho : IsSolid other) {replacement : Node} (hi : parseArgument text = .ok inner)
    (hr : parseArgument other = .ok replacement) :
    ParsedAlike (Replaces functions inner replacement) (parseArgument (enclosed frames text))
      (parseArgument (enclosed frames other)) := by
  induction frames with
  | nil => exact .inr ⟨inner, replacement, hi, hr, .here⟩
  | cons frame frames ih =>
    have hs := h.2.2.isSolid ht
    have hs' := (h.2.2.replace ht ho).isSolid ho
    have he := h.2.1.replace hs hs'
    rw [enclosed_cons, enclosed_cons, parseArgument_eq h.2.1.parts, parseArgument_eq he.parts]
    obtain ⟨e, hp, hp'⟩ | ⟨_, _, hp, hp', ⟨front, back, hnode⟩⟩ :=
      Frame.parsedAlike h.2.1 he hs.ne_nil hs'.ne_nil (ih h.2.2)
    · exact .inl ⟨e, by rw [hp]; rfl, by rw [hp']; rfl⟩
    · exact .inr ⟨_, _, by rw [hp]; rfl, by rw [hp']; rfl, .inside h.1 hnode⟩

end Retheme.Expression
