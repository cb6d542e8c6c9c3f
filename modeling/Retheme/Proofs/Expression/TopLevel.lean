import Retheme.Proofs.Expression.ArgumentList

/-!
# Two ways to split at commas

A selector list is split by a reader of round and square brackets that passes
over a bracket it did not see open. An argument list is split by a reader of
curly brackets too, which refuses such a bracket. Both readers are at the same
place behind every part of a text without curly brackets, so they cut it at the
same commas.
-/

namespace Retheme

variable {brackets other : Brackets} {separator c : Char} {nesting : Nesting} {text : Text}

namespace Nesting

-- ---------------------------------------------------------------------------
-- Readers of different brackets
-- ---------------------------------------------------------------------------

def SameKind (brackets other : Brackets) (c : Char) : Prop :=
  brackets.opens c = other.opens c ∧ brackets.closes c = other.closes c

theorem after_congr (h : SameKind brackets other c) (nesting : Nesting) :
    nesting.after brackets c = nesting.after other c := by
  simp only [after, h.1, h.2]

theorem separates_congr (h : SameKind brackets other c) (nesting : Nesting) :
    nesting.separates brackets separator c = nesting.separates other separator c := by
  simp only [separates, h.1, h.2]

theorem split_congr (h : ∀ c ∈ text, SameKind brackets other c) (nesting : Nesting) :
    nesting.split brackets separator text = nesting.split other separator text := by
  induction text generalizing nesting with
  | nil => rfl
  | cons c rest ih =>
    have hc := h c List.mem_cons_self
    have hr := ih fun d hd => h d (List.mem_cons_of_mem _ hd)
    simp only [split, after_congr hc, separates_congr hc, hr]

theorem sameKind_of_not_curly (ho : c ≠ '{') (hc : c ≠ '}') : SameKind .roundSquare .all c := by
  simp [SameKind, Brackets.roundSquare, Brackets.all, ho, hc]

end Nesting

namespace Expression

open Nesting

theorem splitTop_eq (ho : '{' ∉ text) (hc : '}' ∉ text) :
    Text.splitTop ',' text = top.split .all ',' text :=
  split_congr
    (fun _ hm => sameKind_of_not_curly (fun he => ho (he ▸ hm)) fun he => hc (he ▸ hm)) top

-- ---------------------------------------------------------------------------
-- Both splitters
-- ---------------------------------------------------------------------------

/-- Pieces that a text is split into at the top give it back when they are joined by the separator.
Without curly brackets the pieces at commas are the segments of an argument list that can be split,
and its arguments are these pieces without the blanks around them, but for an empty last one. -/
theorem splitters_agree :
    (∀ separator text, Text.join [separator] (Text.splitTop separator text) = text ∧
        Text.join [separator] (Text.splitTopAt [separator] text) = text) ∧
      ∀ text args, '{' ∉ text → '}' ∉ text → splitArguments text = .ok args →
        AreSegments text (Text.splitTop ',' text) ∧
          DropsEmptyLast ((Text.splitTop ',' text).map Text.strip) args := by
  have hjoin (separator : Char) (text : Text) :
      Text.join [separator] (Text.splitTop separator text) = text :=
    join_split .roundSquare separator top text
  refine ⟨fun separator text => ⟨hjoin separator text, hjoin separator text⟩,
    fun text args ho hc h => ?_⟩
  obtain ⟨hs, hd⟩ := splitArguments_eq_ok_iff.mp h
  rw [splitTop_eq ho hc]
  exact ⟨areSegments_split hs, dropEmptyLast_eq_iff.mp hd⟩

/-- An argument list with a nested list, a comma in quotes and an empty last argument. -/
def nestedList : Text := " rgba(0, [1]) ,'a, b)', "

theorem splitters_agree_nested :
    '{' ∉ nestedList ∧ '}' ∉ nestedList ∧
      splitArguments nestedList = .ok ["rgba(0, [1])".toList, "'a, b)'".toList] ∧
      AreSegments nestedList [" rgba(0, [1]) ".toList, "'a, b)'".toList, " ".toList] ∧
      Text.join [')'] (Text.splitTopAt [')'] nestedList) = nestedList := by
  have ho : '{' ∉ nestedList := by decide
  have hc : '}' ∉ nestedList := by decide
  have hs : splitArguments nestedList = .ok ["rgba(0, [1])".toList, "'a, b)'".toList] := by
    decide +kernel
  obtain ⟨hsegments, -⟩ := splitters_agree.2 nestedList _ ho hc hs
  exact ⟨ho, hc, hs, hsegments, (splitters_agree.1 ')' nestedList).2⟩

end Expression

end Retheme
