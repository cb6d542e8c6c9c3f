import Mathlib.Data.Set.List
import Retheme.Proofs.Expression.Passing

/-!
# Parsing gives back what was written

`parse_written`: an argument with any layout is parsed to the node it stands
for, and a marker that consists of a call or a path to that expression.

An argument is read as a call when it has an opening parenthesis behind a name
that is closed by the last character, and as a variable or a path when it is
written like one. The induction over the tree follows the parser.
-/

namespace Retheme.Expression

open Nesting

-- ---------------------------------------------------------------------------
-- What an argument is read as
-- ---------------------------------------------------------------------------

theorem callParts?_eq_none {text : Text} (h : '(' ∉ text) : callParts? text = none := by
  cases text with
  | nil => rfl
  | cons c rest =>
    rw [callParts?]
    split
    · split
      · next body hb =>
        have hs := (List.dropWhile_suffix Text.isBlank).trans
          (List.dropWhile_suffix Text.isNameChar (l := rest))
        exact absurd (hs.subset (by simp [hb])) fun hm => h (List.mem_cons_of_mem _ hm)
      · rfl
    · rfl

theorem callParts?_of_passes (name : Identifier) (gap : Blanks) {inner : Text}
    (hp : passes? .round none top inner = some top) :
    callParts? (name.text ++ gap.text ++ '(' :: (inner ++ [')'])) = some (name.text, inner) := by
  have hi := name.identifies
  cases ht : name.text with
  | nil => simp [ht, isIdentifier] at hi
  | cons c rest =>
    rw [ht] at hi
    obtain ⟨hc, hn⟩ := isIdentifier_cons hi
    have hg : ∀ d, (gap.text ++ '(' :: (inner ++ [')'])).head? = some d →
        Text.isNameChar d = false := by
      intro d hd
      cases hg : gap.text with
      | nil =>
        rw [hg] at hd
        cases hd
        exact Text.isNameChar_of_mem_punctuation _ (by decide)
      | cons e more =>
        rw [hg] at hd
        cases hd
        rw [Bool.eq_false_iff]
        intro he
        have := Text.isBlank_of_isNameChar he
        simp [gap.blank d (by simp [hg])] at this
    obtain ⟨htake, hdrop⟩ :=
      Text.takeWhile_append_of_head (fun d hd => hn d (List.mem_cons_of_mem _ hd)) hg
    have hend : inside? .round top [')'] = some ([], []) := rfl
    have hb : inside? .round top (inner ++ [')']) = some (inner, []) := by
      rw [inside?_append hp hend, List.append_nil]
    have hblank : (gap.text ++ '(' :: (inner ++ [')'])).dropWhile Text.isBlank =
        '(' :: (inner ++ [')']) := by
      rw [List.dropWhile_append_of_pos gap.blank]
      rfl
    rw [List.append_assoc, List.cons_append, callParts?, if_pos hc, hdrop, hblank]
    simp only [hb, htake]

theorem callParts?_call (name : Identifier) (gap : Blanks) (args : WrittenList) :
    callParts? (Written.call name gap args).text = some (name.text, args.text) :=
  callParts?_of_passes name gap (args.passes .closing 0 (.inl rfl))

theorem isNameChar_percent : Text.isNameChar '%' = false :=
  Text.isNameChar_of_mem_punctuation _ (by decide)

theorem variableName?_asVariable (name : Name) : variableName? name.asVariable = some name.text := by
  have hp : ∀ c, ['%'].head? = some c → Text.isNameChar c = false := by
    rintro c ⟨⟩
    exact isNameChar_percent
  obtain ⟨htake, hdrop⟩ := Text.takeWhile_append_of_head name.nameChars hp
  simp [variableName?, Name.asVariable, htake, hdrop, name.ne_nil]

theorem variableName?_eq_none_of_head {c : Char} {rest : Text} (h : c ≠ '%') :
    variableName? (c :: rest) = none := by
  simp [variableName?, h]

theorem DottedPath.not_mem (dotted : DottedPath) {c : Char} (hc : c ∈ Text.punctuation)
    (hd : c ≠ '.') : c ∉ dotted.text := by
  intro hm
  rcases dotted.nameChars c hm with hp | hn
  · exact hd hp
  · exact Text.ne_of_isNameChar hn hc rfl

theorem DottedPath.split_text (dotted : DottedPath) :
    Text.split '.' dotted.text = dotted.segments := by
  apply Text.split_join
  · simp [segments]
  · intro segment hm hc
    obtain ⟨name, rfl⟩ := mem_segments hm
    exact Text.ne_of_isNameChar (name.nameChars _ hc) (by decide) rfl

theorem getLast?_of_strip {text : Text} (h : text.strip = text) : text.getLast? ≠ some '\n' := by
  intro hl
  obtain ⟨front, rfl⟩ := List.getLast?_eq_some_iff.mp hl
  have hb : ∀ c ∈ ['\n'], Text.isBlank c = true := by decide
  have hs : Text.strip front = front ++ ['\n'] := by
    rw [← h, Text.strip, Text.strip, Text.trim_append_right front hb]
  have := length_strip_le front
  rw [hs, List.length_append, List.length_singleton] at this
  omega

theorem dropFinalLineFeed_of_strip {text : Text} (h : text.strip = text) :
    dropFinalLineFeed text = text := by
  rw [dropFinalLineFeed, if_neg]
  intro hs
  obtain ⟨front, rfl⟩ := List.isSuffixOf_iff_suffix.mp hs
  exact getLast?_of_strip h (by simp)

theorem variableName?_eq_none {text : Text} (hs : text.strip = text)
    (h : ∀ name : Name, text ≠ name.asVariable) : variableName? text = none := by
  cases text with
  | nil => rfl
  | cons c rest =>
    by_cases hc : c = '%'
    · subst hc
      have hsplit := List.takeWhile_append_dropWhile (p := Text.isNameChar) (l := rest)
      simp only [variableName?]
      split
      · next hd =>
        by_cases hn : (rest.takeWhile Text.isNameChar) = []
        · simp [hn]
        · let name : Name := ⟨_, hn, fun c hc => List.mem_takeWhile_imp hc⟩
          refine absurd ?_ (h name)
          rw [Name.asVariable, List.cons_append, ← hd, hsplit]
      · next hd =>
        refine absurd ?_ (getLast?_of_strip hs)
        rw [hd] at hsplit
        rw [List.getLast?_eq_some_iff]
        refine ⟨'%' :: (rest.takeWhile Text.isNameChar ++ ['%']), ?_⟩
        rw [List.cons_append, List.append_assoc, List.singleton_append, hsplit]
      · rfl
    · exact variableName?_eq_none_of_head hc

theorem isPath_text (dotted : DottedPath) : isPath dotted.text = true := by
  have hs : dotted.text.strip = dotted.text := (Written.path dotted).strip_text
  have hname (name : Name) : (!name.text.isEmpty && name.text.all Text.isNameChar) = true := by
    simpa [name.ne_nil] using name.nameChars
  rw [isPath, dropFinalLineFeed_of_strip hs, dotted.split_text, DottedPath.segments]
  simp only [dotted.first.identifies, Bool.true_and, List.all_eq_true]
  intro segment hm
  rcases List.mem_cons.mp hm with rfl | hm
  · exact hname dotted.second
  · obtain ⟨name, -, rfl⟩ := List.mem_map.mp hm
    exact hname name

theorem isPath_eq_false {text : Text} (hs : text.strip = text)
    (h : ∀ path : DottedPath, text ≠ path.text) : isPath text = false := by
  rw [Bool.eq_false_iff]
  intro hp
  rw [isPath, dropFinalLineFeed_of_strip hs] at hp
  split at hp
  · next first second more hsplit =>
    rw [Bool.and_eq_true, List.all_eq_true] at hp
    have hname : ∀ segment ∈ second :: more, ∃ name : Name, name.text = segment := by
      intro segment hm
      have hc := hp.2 segment hm
      rw [Bool.and_eq_true, List.all_eq_true] at hc
      exact ⟨⟨segment, by simpa using hc.1, hc.2⟩, rfl⟩
    obtain ⟨name, rfl⟩ := hname second (by simp)
    have hmore : more ∈ Set.range (List.map Name.text) := by
      rw [Set.range_list_map]
      exact fun segment hm => hname segment (List.mem_cons_of_mem _ hm)
    obtain ⟨names, rfl⟩ := hmore
    refine h ⟨⟨first, hp.1⟩, name, names⟩ ?_
    rw [DottedPath.text, DottedPath.segments, ← hsplit, Text.join_split]
  · cases hp

-- ---------------------------------------------------------------------------
-- Arguments that are no calls
-- ---------------------------------------------------------------------------

theorem parseArgument_of_no_call {text : Text} (h : callParts? text = none) :
    parseArgument text = .ok (leaf text) := by
  rw [parseArgument]
  split
  · rfl
  · next hc => simp [h] at hc

theorem parseArgument_reference (name : Name) :
    parseArgument name.asVariable = .ok (.variable name.text name.asVariable) := by
  have hn : '(' ∉ name.text := fun h => Text.ne_of_isNameChar (name.nameChars _ h) (by decide) rfl
  have hc : callParts? name.asVariable = none :=
    callParts?_eq_none (by simpa [Name.asVariable] using hn)
  rw [parseArgument_of_no_call hc, leaf, variableName?_asVariable]

theorem parseArgument_path (dotted : DottedPath) :
    parseArgument dotted.text = .ok (.path dotted.segments dotted.text) := by
  have hc : callParts? dotted.text = none :=
    callParts?_eq_none (dotted.not_mem (by decide) (by decide))
  have hv : variableName? dotted.text = none := by
    have hm : '%' ∉ dotted.text := dotted.not_mem (by decide) (by decide)
    cases ht : dotted.text with
    | nil => rfl
    | cons c rest =>
      rw [ht] at hm
      exact variableName?_eq_none_of_head fun he => hm (by simp [he])
  rw [parseArgument_of_no_call hc, leaf, hv]
  simp only [isPath_text, if_true, dotted.split_text]

/-- A text in quotes is that text, whatever brackets and commas it holds. -/
theorem parseArgument_quoted (literal : Quoted) :
    parseArgument (Written.quoted literal).text = .ok (.literal literal.text) := by
  have hq : literal.quote = '\'' ∨ literal.quote = '"' := by
    simpa [isQuote] using literal.isQuote
  have hl : Text.isAsciiLetter literal.quote = false ∧ literal.quote ≠ '_' ∧
      literal.quote ≠ '%' ∧ Text.isNameChar literal.quote = false := by
    rcases hq with h | h <;> rw [h] <;>
      exact ⟨by decide, by decide, by decide, Text.isNameChar_of_mem_punctuation _ (by decide)⟩
  obtain ⟨ha, hlow, hpercent, hn⟩ := hl
  have hc : callParts? (Written.quoted literal).text = none := by
    simp [Written.text, callParts?, ha, hlow]
  have hp : isPath (Written.quoted literal).text = false := by
    refine isPath_eq_false (Written.quoted literal).strip_text ?_
    intro dotted he
    have hm : literal.quote ∈ dotted.text := by simp [← he, Written.text]
    refine dotted.not_mem ?_ ?_ hm <;> rcases hq with h | h <;> rw [h] <;> decide
  rw [parseArgument_of_no_call hc, leaf, hp, Written.text, List.cons_append,
    variableName?_eq_none_of_head hpercent]
  simp [unquote, literal.isQuote]

theorem parseArgument_bare (literal : Bare) :
    parseArgument literal.text = .ok (.literal literal.text) := by
  have hc : callParts? literal.text = none :=
    callParts?_eq_none fun hm => by simpa [isPlain, Brackets.all] using literal.plain _ hm
  have hu : unquote literal.text = literal.text := by
    cases ht : literal.text with
    | nil => rfl
    | cons c rest =>
      have hp := literal.plain c (by simp [ht])
      simp only [isPlain, Bool.and_eq_true, Bool.not_eq_eq_eq_not, Bool.not_true] at hp
      simp [unquote, hp.1.1]
  rw [parseArgument_of_no_call hc, leaf, variableName?_eq_none literal.strip_eq literal.not_variable]
  simp only [isPath_eq_false literal.strip_eq literal.not_path, hu, Bool.false_eq_true, if_false]

-- ---------------------------------------------------------------------------
-- Calls
-- ---------------------------------------------------------------------------

theorem parseArgument_of_call {text name inner : Text} {pieces : List Text}
    (hc : callParts? text = some (name, inner)) (hs : splitArguments inner = .ok pieces) :
    parseArgument text = (pieces.mapM parseArgument).map fun args => .call name args text := by
  rw [parseArgument]
  split
  · next hn => rw [hc] at hn; cases hn
  · next hn =>
    rw [hc] at hn
    cases hn
    split
    · next he => rw [hs] at he; cases he
    · next he =>
      rw [hs] at he
      cases he
      rw [List.mapM_subtype (g := parseArgument) fun piece _ => rfl, List.unattach_attach]
      cases pieces.mapM parseArgument <;> rfl

theorem mapM_parseArgument_of_no_call {pieces : List Text}
    (h : ∀ piece ∈ pieces, callParts? piece = none) :
    pieces.mapM parseArgument = .ok (pieces.map leaf) := by
  induction pieces with
  | nil => rfl
  | cons piece pieces ih =>
    have hp := parseArgument_of_no_call (h piece List.mem_cons_self)
    have hr := ih fun other ho => h other (List.mem_cons_of_mem _ ho)
    simp only [List.mapM_cons, hp, hr]
    rfl

theorem parse_leaves {text name inner : Text} {pieces : List Text}
    (hc : callParts? text.strip = some (name, inner)) (hs : splitArguments inner = .ok pieces)
    (hp : ∀ piece ∈ pieces, callParts? piece = none) :
    parse text = .ok (.call name (pieces.map leaf) text.strip) := by
  have ha : parseArguments inner = .ok (pieces.map leaf) := by
    rw [parseArguments, hs]
    exact mapM_parseArgument_of_no_call hp
  simp only [parse, hc, ha]
  rfl

mutual
theorem Written.parseArgument_text : (arg : Written) → parseArgument arg.text = .ok arg.node
  | .reference name => parseArgument_reference name
  | .path dotted => parseArgument_path dotted
  | .quoted literal => parseArgument_quoted literal
  | .bare literal => parseArgument_bare literal
  | .call name gap args => by
    rw [parseArgument_of_call (callParts?_call name gap args) args.splitArguments_text,
      args.mapM_parseArgument]
    rfl

theorem WrittenList.mapM_parseArgument : (args : WrittenList) →
    args.texts.mapM parseArgument = .ok args.nodes
  | .none _ => rfl
  | .last _ arg _ => by
    simp only [WrittenList.texts, List.mapM_cons, List.mapM_nil, arg.parseArgument_text]
    rfl
  | .more _ arg _ rest => by
    simp only [WrittenList.texts, List.mapM_cons, arg.parseArgument_text, rest.mapM_parseArgument]
    rfl
end

/-- A marker that consists of a path or a call is parsed to the expression with the node of it. -/
theorem Written.parse_text {arg : Written} {expression : Expression}
    (h : expression.toNode = arg.node) : parse arg.text = .ok expression := by
  rw [parse, arg.strip_text]
  cases arg with
  | reference | quoted | bare => cases expression <;> cases h
  | path dotted =>
    cases expression with
    | call => cases h
    | path segments text =>
      cases h
      have hc : callParts? dotted.text = none :=
        callParts?_eq_none (dotted.not_mem (by decide) (by decide))
      simp only [Written.text, hc, dotted.split_text]
  | call name gap args =>
    cases expression with
    | path => cases h
    | call head nodes text =>
      cases h
      have ha : parseArguments args.text = .ok args.nodes := by
        rw [parseArguments, args.splitArguments_text]
        exact args.mapM_parseArgument
      simp only [callParts?_call, ha]
      rfl

/-- Parsing undoes writing, for every tree and every layout of it. -/
theorem parse_written (arg : Written) :
    parseArgument arg.text = .ok arg.node ∧
      ∀ expression, expression.toNode = arg.node → parse arg.text = .ok expression :=
  ⟨arg.parseArgument_text, fun _ h => Written.parse_text h⟩

def sampleCall : Written :=
  let none : Blanks := ⟨[], Text.isBlank_of_mem_nil⟩
  let space : Blanks := ⟨[' '], Text.isBlank_of_mem_space⟩
  .call ⟨['f'], by decide⟩ space
    (.more none (.reference ⟨['x'], by decide, by decide +kernel⟩) none
      (.last space (.quoted ⟨'"', ")(,".toList, by decide, by decide⟩) none))

theorem parse_written_sample :
    parse "f (%x%, \")(,\")".toList =
      .ok (.call ['f'] [.variable ['x'] "%x%".toList, .literal ")(,".toList]
        "f (%x%, \")(,\")".toList) :=
  (parse_written sampleCall).2 _ rfl

end Retheme.Expression
