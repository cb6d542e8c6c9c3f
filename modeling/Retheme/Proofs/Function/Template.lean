import Retheme.Function.Template
import Retheme.Proofs.Text.Ends

/-!
# Filled templates

A template is plain text and tokens in turn. Plain text holds no token, and the
text behind a token does not go on with its digits; then the reader finds just
these tokens (`chunks_text`). Every token is replaced once, by the argument it
counts or by itself, and what is put in stays as it is, even where it looks like
a token (`printf_fills`).
-/

namespace Retheme.Function

-- ---------------------------------------------------------------------------
-- Templates
-- ---------------------------------------------------------------------------

structure Plain where
  text : Text
  no_token : ∀ front digit back, text = front ++ '%' :: digit :: back →
    Text.isAsciiDigit digit = false

structure Token where
  digits : Text
  ne_nil : digits ≠ []
  digit : ∀ c ∈ digits, Text.isAsciiDigit c = true
  length_le : digits.length ≤ Integer.digitLimit

def Token.text (token : Token) : Text := '%' :: token.digits

def Token.number (token : Token) : Nat := token.digits.digitsValue

structure Followed where
  token : Token
  behind : Plain
  ends : ∀ c, behind.text.head? = some c → Text.isAsciiDigit c = false

structure Template where
  first : Plain
  more : List Followed

def Template.tokens (template : Template) : List Token := template.more.map (·.token)

def filledFrom (texts : Token → Text) (more : List Followed) : Text :=
  more.flatMap fun part => texts part.token ++ part.behind.text

def Template.filled (template : Template) (texts : Token → Text) : Text :=
  template.first.text ++ filledFrom texts template.more

def Template.text (template : Template) : Text := template.filled Token.text

/-- What a token stands for among arguments: the text of the argument that it counts, or no text
if the argument has none; itself where it counts none or nothing stands. -/
inductive Token.StandsFor (args : List Value) (token : Token) : Text → Prop
  | argument {value : Value} {text : Option Text} (hn : 1 ≤ token.number)
      (ha : args[token.number]? = some value) (hv : value ≠ .null)
      (ht : value.declared? = .ok text) : StandsFor args token (text.getD [])
  | itself (h : ∀ value, 1 ≤ token.number → args[token.number]? = some value → value = .null) :
      StandsFor args token token.text

-- ---------------------------------------------------------------------------
-- Reading
-- ---------------------------------------------------------------------------

variable {args : List Value} {rest : Text} {texts : Token → Text}

theorem chunks_plain (plain : Plain)
    (hr : ∀ c, rest.head? = some c → Text.isAsciiDigit c = false) :
    chunks (plain.text ++ rest) = plain.text.map .plain ++ chunks rest := by
  obtain ⟨text, hp⟩ := plain
  induction text with
  | nil => rfl
  | cons c text ih =>
    have hdigits : c = '%' → (text ++ rest).takeWhile Text.isAsciiDigit = [] := by
      rintro rfl
      refine (Text.takeWhile_append_of_head (a := []) nofun fun d hd => ?_).1
      cases text with
      | nil => exact hr d hd
      | cons digit text =>
        obtain rfl : digit = d := Option.some.inj hd
        exact hp [] digit text rfl
    have hrest := ih fun front digit back he => hp (c :: front) digit back (by rw [he]; rfl)
    have hc : (decide (c = '%') &&
        !((text ++ rest).takeWhile Text.isAsciiDigit).isEmpty) = false := by
      by_cases hc : c = '%'
      · simp [hdigits hc]
      · simp [hc]
    rw [List.cons_append, chunks]
    simp only [hc, Bool.false_eq_true, if_false]
    rw [hrest]
    rfl

theorem chunks_token (token : Token)
    (hr : ∀ c, rest.head? = some c → Text.isAsciiDigit c = false) :
    chunks (token.text ++ rest) = .token token.digits :: chunks rest := by
  obtain ⟨htake, hdrop⟩ := Text.takeWhile_append_of_head token.digit hr
  have hne : token.digits.isEmpty = false := by simp [token.ne_nil]
  rw [Token.text, List.cons_append, chunks]
  simp only [htake, hdrop, hne]
  rfl

theorem head?_filledFrom (more : List Followed) :
    ∀ c, (filledFrom Token.text more).head? = some c → Text.isAsciiDigit c = false := by
  cases more with
  | nil => nofun
  | cons part more =>
    rintro c ⟨⟩
    rfl

def chunksFrom (more : List Followed) : List Chunk :=
  more.flatMap fun part => .token part.token.digits :: part.behind.text.map .plain

theorem chunks_filledFrom (more : List Followed) :
    chunks (filledFrom Token.text more) = chunksFrom more := by
  induction more with
  | nil => rw [filledFrom, List.flatMap_nil, chunks, chunksFrom, List.flatMap_nil]
  | cons part more ih =>
    have hhead : ∀ c, (part.behind.text ++ filledFrom Token.text more).head? = some c →
        Text.isAsciiDigit c = false := by
      intro c hc
      cases hb : part.behind.text with
      | nil =>
        rw [hb] at hc
        exact head?_filledFrom more c hc
      | cons d text =>
        rw [hb] at hc
        exact part.ends c (by rw [hb]; exact hc)
    calc chunks (filledFrom Token.text (part :: more))
        = chunks (part.token.text ++ (part.behind.text ++ filledFrom Token.text more)) := by
          simp [filledFrom]
      _ = .token part.token.digits :: (part.behind.text.map .plain ++ chunksFrom more) := by
          rw [chunks_token _ hhead, chunks_plain _ (head?_filledFrom more), ih]
      _ = chunksFrom (part :: more) := by simp [chunksFrom]

/-- The reader finds the tokens that a template was put together from. -/
theorem chunks_text (template : Template) :
    chunks template.text = template.first.text.map .plain ++ chunksFrom template.more := by
  rw [Template.text, Template.filled, chunks_plain _ (head?_filledFrom _), chunks_filledFrom]

-- ---------------------------------------------------------------------------
-- Filling
-- ---------------------------------------------------------------------------

theorem expand_token {token : Token} {text : Text} (h : token.StandsFor args text) :
    expand args (.token token.digits) = .ok text := by
  have hread : Integer.read token.digits = .ok token.number := by
    rw [Integer.read, if_neg (Nat.not_lt.mpr token.length_le)]
    rfl
  simp only [expand, hread, bind, Except.bind]
  cases h with
  | @argument value text hn ha hv ht =>
    rw [if_neg (Nat.one_le_iff_ne_zero.mp hn), ha]
    cases value with
    | null => exact absurd rfl hv
    | _ => exact congrArg (Except.map (·.getD [])) ht
  | itself h =>
    by_cases hn : token.number = 0
    · rw [if_pos hn]
      rfl
    · rw [if_neg hn]
      cases ha : args[token.number]? with
      | none => rfl
      | some value =>
        rw [h value (Nat.one_le_iff_ne_zero.mpr hn) ha]
        rfl

def FillsTo (args : List Value) (parts : List Chunk) (text : Text) : Prop :=
  ∃ pieces, parts.mapM (expand args) = .ok pieces ∧ pieces.flatten = text

theorem FillsTo.nil : FillsTo args [] [] := ⟨[], rfl, rfl⟩

theorem FillsTo.cons {part : Chunk} {parts : List Chunk} {piece text : Text}
    (hp : expand args part = .ok piece) (h : FillsTo args parts text) :
    FillsTo args (part :: parts) (piece ++ text) := by
  obtain ⟨pieces, hm, rfl⟩ := h
  exact ⟨piece :: pieces, by rw [List.mapM_cons, hp, hm]; rfl, rfl⟩

theorem FillsTo.plain {parts : List Chunk} {text : Text} (plain : Text)
    (h : FillsTo args parts text) : FillsTo args (plain.map .plain ++ parts) (plain ++ text) := by
  induction plain with
  | nil => exact h
  | cons c plain ih => exact @FillsTo.cons args (.plain c) _ [c] _ rfl ih

theorem fillsTo_chunksFrom {more : List Followed}
    (h : ∀ part ∈ more, part.token.StandsFor args (texts part.token)) :
    FillsTo args (chunksFrom more) (filledFrom texts more) := by
  induction more with
  | nil => exact .nil
  | cons part more ih =>
    have hrest := ih fun other ho => h other (List.mem_cons_of_mem _ ho)
    have hpart := expand_token (h part List.mem_cons_self)
    simpa [chunksFrom, filledFrom] using FillsTo.cons hpart (hrest.plain part.behind.text)

theorem Token.StandsFor.unique {token : Token} {text other : Text}
    (h : token.StandsFor args text) (ho : token.StandsFor args other) : text = other := by
  cases h with
  | argument hn ha hv ht =>
    cases ho with
    | argument _ ha' _ ht' =>
      obtain rfl := Option.some.inj (ha.symm.trans ha')
      obtain rfl := Except.ok.inj (ht.symm.trans ht')
      rfl
    | itself h => exact absurd (h _ hn ha) hv
  | itself h =>
    cases ho with
    | argument hn ha hv _ => exact absurd (h _ hn ha) hv
    | itself => rfl

/-- Every token stands for something, unless the argument it counts has no text because it
fails. -/
theorem exists_standsFor (token : Token) (hd : ∀ value, 1 ≤ token.number →
      args[token.number]? = some value → ∃ text, value.declared? = .ok text) :
    ∃ text, token.StandsFor args text := by
  by_cases h : ∀ value, 1 ≤ token.number → args[token.number]? = some value → value = .null
  · exact ⟨_, .itself h⟩
  · simp only [not_forall] at h
    obtain ⟨value, hn, ha, hv⟩ := h
    obtain ⟨text, ht⟩ := hd value hn ha
    exact ⟨_, .argument hn ha hv ht⟩

/-- A template is given back with each of its tokens replaced by what it stands for, and with
nothing else changed, when no argument that a token counts fails to give its text. -/
theorem printf_fills {template : Template} {value : Value} {args : List Value}
    (hv : value ≠ .null) (hs : value.shown = .ok template.text)
    (hd : ∀ token ∈ template.tokens, ∀ arg, 1 ≤ token.number →
      (value :: args)[token.number]? = some arg → ∃ text, arg.declared? = .ok text) :
    ∃ texts : Token → Text,
      (∀ token ∈ template.tokens, token.StandsFor (value :: args) (texts token)) ∧
        printf (value :: args) = .ok (.text (template.filled texts)) := by
  have hstands : ∀ token, ∃ text,
      token ∈ template.tokens → token.StandsFor (value :: args) text := by
    intro token
    by_cases hm : token ∈ template.tokens
    · obtain ⟨text, ht⟩ := exists_standsFor token (hd token hm)
      exact ⟨text, fun _ => ht⟩
    · exact ⟨[], fun h => absurd h hm⟩
  obtain ⟨texts, ht⟩ := Classical.axiomOfChoice hstands
  refine ⟨texts, ht, ?_⟩
  have hmore : ∀ part ∈ template.more, part.token.StandsFor (value :: args) (texts part.token) :=
    fun part hp => ht _ (List.mem_map_of_mem hp)
  obtain ⟨pieces, hm, hp⟩ := (fillsTo_chunksFrom hmore).plain template.first.text
  have hprintf : printf (value :: args) = do
      let parts ← (chunks (← value.shown)).mapM (expand (value :: args))
      return .text parts.flatten := by
    cases value with
    | null => exact absurd rfl hv
    | _ => rfl
  rw [hprintf, hs]
  simp only [bind, Except.bind, chunks_text, hm]
  rw [hp]
  rfl

def Plain.ofNotMem (text : Text) (h : '%' ∉ text) : Plain where
  text
  no_token front digit back ht := absurd (by simp [ht]) h

/-- A percent sign in front of a token, a token of two digits, one with a text that looks like a
token, and one that counts no argument. -/
def progressTemplate : Template where
  first := ⟨"%", fun front digit back h => by
    have := congrArg List.length h
    simp at this
    omega⟩
  more := [⟨⟨"02", by decide, by decide, by decide⟩, .ofNotMem " of " (by decide),
      fun c hc => by obtain rfl := Option.some.inj hc; rfl⟩,
    ⟨⟨"1", by decide, by decide, by decide⟩, .ofNotMem [] (by decide), nofun⟩,
    ⟨⟨"3", by decide, by decide, by decide⟩, .ofNotMem [] (by decide), nofun⟩]

theorem printf_fills_progress :
    printf [.text "%%02 of %1%3", .text "%2", .bool true] = .ok (.text "%true of %2%3") := by
  have hd : ∀ token ∈ progressTemplate.tokens, ∀ arg, 1 ≤ token.number →
      [Value.text "%%02 of %1%3", .text "%2", .bool true][token.number]? = some arg →
        ∃ text, arg.declared? = .ok text := by
    rintro token - arg - ha
    have hm := List.mem_of_getElem? ha
    simp only [List.mem_cons, List.not_mem_nil, or_false] at hm
    rcases hm with rfl | rfl | rfl <;> exact ⟨_, rfl⟩
  have hv : Value.text "%%02 of %1%3" ≠ .null := by rintro ⟨⟩
  obtain ⟨texts, hstands, hprintf⟩ := @printf_fills progressTemplate _ _ hv rfl hd
  rw [hprintf]
  have hsecond : texts ⟨"02", by decide, by decide, by decide⟩ = "true" :=
    (hstands _ (by simp [Template.tokens, progressTemplate])).unique
      (@Token.StandsFor.argument _ _ (.bool true) (some "true".toList) (by decide) rfl
        (by rintro ⟨⟩) rfl)
  have hfirst : texts ⟨"1", by decide, by decide, by decide⟩ = "%2" :=
    (hstands _ (by simp [Template.tokens, progressTemplate])).unique
      (@Token.StandsFor.argument _ _ (.text "%2") (some "%2".toList) (by decide) rfl
        (by rintro ⟨⟩) rfl)
  have hbeyond : texts ⟨"3", by decide, by decide, by decide⟩ = "%3" :=
    (hstands _ (by simp [Template.tokens, progressTemplate])).unique
      (.itself fun value _ ha => by cases ha)
  simp only [Template.filled, filledFrom, progressTemplate, List.flatMap_cons, List.flatMap_nil,
    hsecond, hfirst, hbeyond]
  rfl

end Retheme.Function
