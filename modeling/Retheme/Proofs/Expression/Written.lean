import Retheme.Expression.Basic
import Retheme.Proofs.Text.Blank
import Retheme.Proofs.Text.Ends
import Retheme.Proofs.Text.Nesting

/-!
# Arguments as they are written

An argument together with its layout: the blanks around parentheses and commas,
the quotes of a literal, a comma behind the last argument. Every such tree has a
text and a node; the text is written down to the last blank, and the node keeps
none of the layout but the text of the calls, variables and paths in it.

The parts are texts with the proofs of what they may hold, so that every tree
can be written.
-/

namespace Retheme.Expression

-- ---------------------------------------------------------------------------
-- Parts
-- ---------------------------------------------------------------------------

structure Name where
  text : Text
  ne_nil : text ≠ []
  nameChars : ∀ c ∈ text, Text.isNameChar c = true

structure Identifier where
  text : Text
  identifies : isIdentifier text = true

structure Blanks where
  text : Text
  blank : ∀ c ∈ text, Text.isBlank c = true

/-- At least two names with points between them; the first is an identifier. -/
structure DottedPath where
  first : Identifier
  second : Name
  more : List Name

def DottedPath.segments (path : DottedPath) : List Text :=
  path.first.text :: path.second.text :: path.more.map Name.text

def DottedPath.text (path : DottedPath) : Text := Text.join ['.'] path.segments

def Name.asVariable (name : Name) : Text := '%' :: name.text ++ ['%']

structure Quoted where
  quote : Char
  text : Text
  isQuote : Nesting.isQuote quote = true
  not_mem : quote ∉ text

/-- A text that can stand without quotes: it has neither quotes nor brackets nor commas, no blanks
at its ends, and is written like neither a variable nor a path. -/
structure Bare where
  text : Text
  ne_nil : text ≠ []
  strip_eq : text.strip = text
  plain : ∀ c ∈ text, Nesting.isPlain .all (some ',') c = true
  not_variable : ∀ name : Name, text ≠ name.asVariable
  not_path : ∀ path : DottedPath, text ≠ path.text

-- ---------------------------------------------------------------------------
-- Trees
-- ---------------------------------------------------------------------------

mutual
inductive Written where
  | reference (name : Name)
  | path (dotted : DottedPath)
  | quoted (literal : Quoted)
  | bare (literal : Bare)
  | call (name : Identifier) (gap : Blanks) (args : WrittenList)

/-- What stands between the parentheses of a call. Nothing but blanks is also what may follow the
last comma. -/
inductive WrittenList where
  | none (blanks : Blanks)
  | last (before : Blanks) (arg : Written) (after : Blanks)
  | more (before : Blanks) (arg : Written) (after : Blanks) (rest : WrittenList)
end

mutual
def Written.text : Written → Text
  | .reference name => name.asVariable
  | .path dotted => dotted.text
  | .quoted literal => literal.quote :: literal.text ++ [literal.quote]
  | .bare literal => literal.text
  | .call name gap args => name.text ++ gap.text ++ '(' :: (args.text ++ [')'])

def WrittenList.text : WrittenList → Text
  | .none blanks => blanks.text
  | .last before arg after => before.text ++ arg.text ++ after.text
  | .more before arg after rest => before.text ++ arg.text ++ after.text ++ ',' :: rest.text
end

mutual
def Written.node : Written → Node
  | .reference name => .variable name.text name.asVariable
  | .path dotted => .path dotted.segments dotted.text
  | .quoted literal => .literal literal.text
  | .bare literal => .literal literal.text
  | .call name gap args => .call name.text args.nodes (Written.call name gap args).text

def WrittenList.nodes : WrittenList → List Node
  | .none _ => []
  | .last _ arg _ => [arg.node]
  | .more _ arg _ rest => arg.node :: rest.nodes
end

def WrittenList.texts : WrittenList → List Text
  | .none _ => []
  | .last _ arg _ => [arg.text]
  | .more _ arg _ rest => arg.text :: rest.texts

-- ---------------------------------------------------------------------------
-- Characters of the parts
-- ---------------------------------------------------------------------------

theorem isNameChar_of_isAsciiLetter {c : Char} (h : Text.isAsciiLetter c = true) :
    Text.isNameChar c = true := by
  have hr : (0x61 ≤ c.toNat ∧ c.toNat ≤ 0x7a) ∨ (0x41 ≤ c.toNat ∧ c.toNat ≤ 0x5a) := by
    simpa [Text.isAsciiLetter, Char.le_def, UInt32.le_iff_toNat_le] using h
  apply Text.isNameChar_of_isWord
  rw [Text.isWord, List.any_eq_true]
  rcases hr with hr | hr
  · exact ⟨(0x61, 0x7a), by decide +kernel, by simpa using hr⟩
  · exact ⟨(0x41, 0x5a), by decide +kernel, by simpa using hr⟩

theorem isIdentifier_cons {c : Char} {rest : Text} (h : isIdentifier (c :: rest) = true) :
    (Text.isAsciiLetter c || c = '_') = true ∧ ∀ d ∈ c :: rest, Text.isNameChar d = true := by
  simp only [isIdentifier, Bool.and_eq_true] at h
  refine ⟨h.1, ?_⟩
  intro d hd
  rcases List.mem_cons.mp hd with rfl | hd
  · rcases (Bool.or_eq_true _ _).mp h.1 with hc | hc
    · exact isNameChar_of_isAsciiLetter hc
    · obtain rfl : d = '_' := of_decide_eq_true hc
      decide +kernel
  · exact List.all_eq_true.mp h.2 d hd

def Identifier.toName (name : Identifier) : Name where
  text := name.text
  ne_nil h := by simpa [h, isIdentifier] using name.identifies
  nameChars := by
    have h := name.identifies
    cases ht : name.text with
    | nil => simp
    | cons c rest =>
      rw [ht] at h
      exact (isIdentifier_cons h).2

theorem DottedPath.mem_segments {path : DottedPath} {segment : Text} (h : segment ∈ path.segments) :
    ∃ name : Name, segment = name.text := by
  simp only [segments, List.mem_cons, List.mem_map] at h
  rcases h with rfl | rfl | ⟨name, -, rfl⟩
  · exact ⟨path.first.toName, rfl⟩
  · exact ⟨path.second, rfl⟩
  · exact ⟨name, rfl⟩

theorem DottedPath.nameChars (path : DottedPath) :
    ∀ c ∈ path.text, c = '.' ∨ Text.isNameChar c = true := by
  intro c hc
  rcases Text.mem_join hc with hc | ⟨segment, hs, hc⟩
  · exact .inl (List.mem_singleton.mp hc)
  · obtain ⟨name, rfl⟩ := mem_segments hs
    exact .inr (name.nameChars c hc)

def structural : Text := ['\'', '"', '(', '[', '{', ')', ']', '}', ',']

theorem isPlain_of_not_mem {c : Char} (h : c ∉ structural) :
    Nesting.isPlain .all (some ',') c = true := by
  simp only [structural, List.mem_cons, List.not_mem_nil, or_false, not_or] at h
  simp [Nesting.isPlain, Nesting.isQuote, Brackets.all, h, Ne.symm h.2.2.2.2.2.2.2.2]

theorem isPlain_of_isNameChar {c : Char} (h : Text.isNameChar c = true) :
    Nesting.isPlain .all (some ',') c = true := by
  have hs : ∀ d ∈ structural, d ∈ Text.punctuation := by decide
  exact isPlain_of_not_mem fun hc => Text.ne_of_isNameChar h (hs c hc) rfl

theorem isPlain_of_isBlank {c : Char} (h : Text.isBlank c = true) :
    Nesting.isPlain .all (some ',') c = true := by
  have hs : ∀ d ∈ structural, Text.isBlank d = false := by decide
  exact isPlain_of_not_mem fun hc => by simp [hs c hc] at h

end Retheme.Expression
