import Retheme.Proofs.Sheet.RuleName
import Retheme.Sheet.Marker

/-!
# Reading a sheet from the front

A reader that has left no comment open stands between two rules or inside of a
block whose name it knows. Text that opens no block keeps it inside; the name
found at its offset is then the one it knows.
-/

namespace Retheme.Sheet

variable {front head name text rest : Text}

structure Between (front : Text) : Prop where
  closed : IsClosed front
  endsBlock : EndsBlock (blankComments front)

structure Inside (front name : Text) : Prop where
  closed : IsClosed front
  found : nameBehind (blankComments front) = name

theorem Between.nil : Between [] where
  closed := isClosed_of_commentless rfl
  endsBlock := by
    rw [blankComments_nil]
    exact endsBlock_nil

theorem Between.enter (h : Between front) (hc : Text.occursIn commentOpen head = false)
    (hs : head.head? ≠ some '*') (hh : ∀ c ∈ head, c ≠ '{' ∧ c ≠ '}' ∧ c ≠ ';') :
    Inside (front ++ head ++ ['{']) (canonicalName head) := by
  have hf := h.closed.append (isClosed_of_commentless hc) hs
  have hb : blankComments ['{'] = ['{'] := by
    rw [blankComments_cons (by decide), blankComments_nil]
  constructor
  · exact hf.append (isClosed_of_commentless (by decide)) (by decide)
  · rw [blankComments_append hf (by decide), blankComments_append h.closed hs,
      blankComments_eq_self hc, hb]
    exact nameBehind_own h.endsBlock hh

theorem Inside.pass (h : Inside front name) (ht : IsClosed text) (hs : text.head? ≠ some '*')
    (ho : '{' ∉ blankComments text) : Inside (front ++ text) name := by
  constructor
  · exact h.closed.append ht hs
  · rw [blankComments_append h.closed hs, nameBehind_append _ ho, h.found]

theorem Inside.pass_plain (h : Inside front name) (ht : ∀ c ∈ text, c ≠ '/' ∧ c ≠ '{')
    (hs : text.head? ≠ some '*') : Inside (front ++ text) name := by
  have hc : Text.occursIn commentOpen text = false :=
    Text.occursIn_of_not_mem fun hm => (ht _ hm).1 rfl
  refine h.pass (isClosed_of_commentless hc) hs ?_
  rw [blankComments_eq_self hc]
  exact fun hm => (ht _ hm).2 rfl

theorem Inside.pass_marker {expression : Text} (h : Inside front name) (he : '*' ∉ expression) :
    Inside (front ++ (markerOpen ++ expression ++ markerClose)) name := by
  have hb : Text.occursIn commentClose ('!' :: '[' :: (expression ++ [']'])) = false :=
    Text.occursIn_of_not_mem (by simp [he])
  have hm : markerOpen ++ expression ++ markerClose =
      commentOpen ++ ('!' :: '[' :: (expression ++ [']'])) ++ commentClose := by
    simp [markerOpen, markerClose, commentOpen, commentClose]
  have hbl := blankComments_comment hb []
  rw [List.append_nil, blankComments_nil, List.append_nil] at hbl
  rw [hm]
  refine h.pass (isClosed_comment hb) (by simp [commentOpen]) ?_
  rw [hbl]
  simp

theorem Inside.leave (h : Inside front name) : Between (front ++ ['}']) := by
  have hb : blankComments ['}'] = ['}'] := by
    rw [blankComments_cons (by decide), blankComments_nil]
  constructor
  · exact h.closed.append (isClosed_of_commentless (by decide)) (by decide)
  · rw [blankComments_append h.closed (by decide), hb]
    exact endsBlock_snoc _

theorem Inside.ruleNameAt (h : Inside front name) (hr : rest.head? ≠ some '*') :
    ruleNameAt (front ++ rest) front.length = name := by
  rw [ruleNameAt_eq, blankComments_append h.closed hr,
    ← length_blankComments front, List.take_left, h.found]

end Retheme.Sheet
