import Retheme.Text.Blank

/-!
# Markers

A marker is a comment of the form `/*![expression]*/`. Markers are found from
the front: each begins at the first opening delimiter after the one before and
ends at the first closing delimiter; one that is never closed ends the search.
-/

namespace Retheme.Sheet

def markerOpen : Text := ['/', '*', '!', '[']

def markerClose : Text := [']', '*', '/']

/-- A marker: the expression without blanks at its ends, the offset of the marker and the offset
just behind it. -/
structure Marker where
  expression : Text
  start : Nat
  stop : Nat
  deriving DecidableEq, Repr

/-- The last name of a dotted expression. -/
def Marker.key (marker : Marker) : Text := Text.lastPiece '.' marker.expression

def markersFrom (offset : Nat) (text : Text) : List Marker :=
  match ho : Text.cut? markerOpen text with
  | none => []
  | some (before, body) =>
    match hc : Text.cut? markerClose body with
    | none => []
    | some (inner, after) =>
      have := Text.length_lt_of_cut? (by simp [markerOpen]) ho
      have := Text.length_lt_of_cut? (by simp [markerClose]) hc
      let start := offset + before.length
      let stop := start + markerOpen.length + inner.length + markerClose.length
      ⟨inner.strip, start, stop⟩ :: markersFrom stop after
termination_by text.length

def markers (text : Text) : List Marker := markersFrom 0 text

end Retheme.Sheet
