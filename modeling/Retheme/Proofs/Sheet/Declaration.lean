import Retheme.Proofs.Sheet.Marker
import Retheme.Sheet.Declaration

/-!
# Contexts of markers

A valid context holds the rule name found behind the marker, at the offset of
its closing delimiter. A marker in front of a declaration that ends on its line
and within reach is given the property and the flag of that declaration.
-/

namespace Retheme.Sheet

variable {source front expression before after value rest : Text} {position stop reach : Nat}
  {marker : Marker}

-- ---------------------------------------------------------------------------
-- Valid contexts
-- ---------------------------------------------------------------------------

theorem contextAt_rule_of_prop (hm : afterMarker? source position = some (stop, rest))
    (hp : (contextAt source position).prop ≠ []) :
    (contextAt source position).rule = ruleNameAt source stop := by
  rw [contextAt, hm] at hp ⊢
  simp only at hp ⊢
  cases hc : Text.cut? [':'] rest with
  | none =>
    rw [hc] at hp
    exact absurd rfl hp
  | some parts =>
    rw [hc] at hp
    simp only at hp ⊢
    split
    · next he =>
      rw [if_pos he] at hp
      exact absurd rfl hp
    · rfl

theorem contextAt_rule (h : (contextAt source position).isValid = true) :
    ∃ stop rest, afterMarker? source position = some (stop, rest) ∧
      (contextAt source position).rule = ruleNameAt source stop := by
  cases hm : afterMarker? source position with
  | none =>
    rw [contextAt, hm] at h
    cases h
  | some found =>
    obtain ⟨stop, rest⟩ := found
    have hp : (contextAt source position).prop ≠ [] := by
      intro hp
      rw [Context.isValid, hp] at h
      cases h
    exact ⟨stop, rest, rfl, contextAt_rule_of_prop hm hp⟩

-- ---------------------------------------------------------------------------
-- Marked declarations
-- ---------------------------------------------------------------------------

theorem afterMarker?_append (front rest : Text) (h : ']' ∉ expression) :
    afterMarker? (front ++ (markerOpen ++ expression ++ markerClose ++ rest)) front.length =
      some ((front ++ (markerOpen ++ expression ++ markerClose)).length, rest) := by
  have ho : ']' ∉ markerOpen ++ expression := by simpa [markerOpen] using h
  rw [afterMarker?, List.drop_left, markerClose, Text.cut?_of_not_mem ho]
  simp [Nat.add_assoc]

theorem afterMarker?_start (h : marker ∈ markers source) :
    afterMarker? source marker.start = some (marker.stop, source.drop marker.stop) := by
  obtain ⟨before, inner, after, ht, hc, hstart, hstop, -⟩ := exists_of_mem_markersFrom h
  rw [Nat.zero_add] at hstart hstop
  have hb : source.drop marker.start = markerOpen ++ (inner ++ markerClose ++ after) := by
    rw [hstart, ht]
    simp
  have ha : source.drop marker.stop = after := by
    rw [hstop, ht, List.drop_left]
  have ho : ']' ∉ markerOpen := by decide
  have hl := Text.cut?_append_left ho ['*', '/'] (inner ++ markerClose ++ after)
  rw [← markerClose, hc] at hl
  rw [afterMarker?, hb, hl, ha, hstart, hstop]
  simp [Nat.add_assoc]

theorem contextAt_eq (hm : afterMarker? source position = some (stop, before ++ ':' :: after))
    (hc : ':' ∉ before) (hn : Text.removeBlanks before ≠ [])
    (hb : ∀ c ∈ before, c ≠ '{' ∧ c ≠ '}' ∧ c ≠ ';') :
    contextAt source position =
      { prop := Text.removeBlanks before
        rule := ruleNameAt source stop
        important := (firstLineValue? ((':' :: after).take importantReach)).any
          importantFlag.occursIn } := by
  have hcut : Text.cut? [':'] (before ++ ':' :: after) = some (before, after) := by
    simpa using Text.cut?_of_not_mem hc [] after
  have hp : (Text.removeBlanks before).any (fun c => c = '{' || c = '}' || c = ';') = false := by
    rw [List.any_eq_false]
    intro c hm
    simpa [and_assoc] using hb c (List.mem_of_mem_filter hm)
  rw [contextAt, hm]
  simp only [hcut, hp, Bool.or_false, List.isEmpty_iff, hn, if_false]
  cases firstLineValue? ((':' :: after).take importantReach) <;> rfl

/-- A marker with a closing brace in front of the next colon stands in front of no declaration. -/
theorem contextAt_detached (hm : afterMarker? source position = some (stop, before ++ rest))
    (hc : ':' ∉ before) (hb : '}' ∈ before) : contextAt source position = .empty := by
  rw [contextAt, hm]
  dsimp only
  rw [Text.cut?_append_left hc]
  cases Text.cut? [':'] rest with
  | none => rfl
  | some parts =>
    obtain ⟨inner, after⟩ := parts
    have hr : '}' ∈ Text.removeBlanks (before ++ inner) :=
      List.mem_filter.mpr ⟨List.mem_append_left _ hb, by decide⟩
    have ha : (Text.removeBlanks (before ++ inner)).any
        (fun c => c = '{' || c = '}' || c = ';') = true :=
      List.any_eq_true.mpr ⟨'}', hr, by decide⟩
    dsimp only [Option.map_some]
    rw [ha, Bool.or_true, if_pos rfl]

theorem lineValue?_of_chars {c terminator : Char} (hc : c ≠ '\n')
    (hv : ∀ d ∈ value, d ≠ ';' ∧ d ≠ '}' ∧ d ≠ '\n') (ht : terminator = ';' ∨ terminator = '}')
    (rest : Text) : lineValue? (c :: (value ++ terminator :: rest)) = some (c :: value) := by
  have he : (terminator == ';' || terminator == '}') = true := by simpa using ht
  have hw : (value ++ terminator :: rest).takeWhile
      (fun d => !(d == ';' || d == '}') && d != '\n') = value := by
    rw [List.takeWhile_append_of_pos, List.takeWhile_cons_of_neg (by simp [he]), List.append_nil]
    intro d hd
    simpa [and_assoc] using hv d hd
  rw [lineValue?, if_neg hc]
  simp only [hw, List.drop_left]
  rw [if_pos he]

theorem firstLineValue?_take (hv : ∀ c ∈ value, c ≠ ';' ∧ c ≠ '}' ∧ c ≠ '\n')
    (hr : value.length + 3 ≤ reach) (rest : Text) :
    firstLineValue? ((':' :: ' ' :: (value ++ ';' :: rest)).take reach) = some (' ' :: value) := by
  obtain ⟨more, rfl⟩ := Nat.exists_eq_add_of_le hr
  have ht : (':' :: ' ' :: (value ++ ';' :: rest)).take (value.length + 3 + more) =
      ':' :: ' ' :: (value ++ ';' :: rest.take more) := by
    have he : value.length + 3 + more = (value.length + (more + 1)) + 1 + 1 := by omega
    rw [he, List.take_succ_cons, List.take_succ_cons, List.take_length_add_append,
      List.take_succ_cons]
  rw [ht, firstLineValue?, if_pos rfl, lineValue?_of_chars (by decide) hv (.inl rfl),
    Option.some_or]

-- ---------------------------------------------------------------------------
-- Marked properties
-- ---------------------------------------------------------------------------

structure MarkedProperty (source : Text) where
  marker : Marker
  prop : Text
  /-- What stands behind the colon. -/
  after : Text
  found : marker ∈ markers source
  behind : source.drop marker.stop = prop ++ ':' :: after
  not_mem_prop : ':' ∉ prop
  prop_chars : ∀ c ∈ prop, c ≠ '{' ∧ c ≠ '}' ∧ c ≠ ';'
  prop_visible : Text.removeBlanks prop ≠ []

theorem MarkedProperty.afterMarker?_eq (marked : MarkedProperty source) :
    afterMarker? source marked.marker.start =
      some (marked.marker.stop, marked.prop ++ ':' :: marked.after) := by
  rw [afterMarker?_start marked.found, marked.behind]

theorem MarkedProperty.takeWhile_behind (marked : MarkedProperty source) :
    (source.drop marked.marker.stop).takeWhile (· != ':') = marked.prop := by
  have hp : ∀ c ∈ marked.prop, (c != ':') = true := by
    intro c hc
    rw [bne_iff_ne]
    rintro rfl
    exact marked.not_mem_prop hc
  rw [marked.behind, List.takeWhile_append_of_pos hp]
  simp

theorem MarkedProperty.contextAt_eq (marked : MarkedProperty source) :
    contextAt source marked.marker.start =
      { prop := Text.removeBlanks marked.prop
        rule := ruleNameAt source marked.marker.stop
        important := (firstLineValue? ((':' :: marked.after).take importantReach)).any
          importantFlag.occursIn } :=
  Sheet.contextAt_eq marked.afterMarker?_eq marked.not_mem_prop marked.prop_visible
    marked.prop_chars

theorem exists_markedProperty_of_prop (hm : marker ∈ markers source)
    (hp : (contextAt source marker.start).prop ≠ []) :
    ∃ marked : MarkedProperty source, marked.marker = marker := by
  rw [contextAt, afterMarker?_start hm] at hp
  dsimp only at hp
  cases hc : Text.cut? [':'] (source.drop marker.stop) with
  | none =>
    rw [hc] at hp
    exact absurd rfl hp
  | some parts =>
    obtain ⟨before, after⟩ := parts
    rw [hc] at hp
    dsimp only at hp
    split at hp
    · exact absurd rfl hp
    · next hn =>
      rw [Bool.or_eq_true, List.isEmpty_iff, List.any_eq_true, not_or] at hn
      refine ⟨⟨marker, before, after, hm, ?_, Text.not_mem_of_cut? hc, ?_, hn.1⟩, rfl⟩
      · simpa using Text.eq_of_cut? hc
      · intro c hc
        by_contra hn'
        have hb : c = '{' ∨ c = '}' ∨ c = ';' := by
          simpa only [← not_or, not_not] using hn'
        refine hn.2 ⟨c, List.mem_filter.mpr ⟨hc, ?_⟩, by simpa [or_assoc] using hb⟩
        rcases hb with rfl | rfl | rfl <;> decide

theorem exists_markedProperty (hm : marker ∈ markers source)
    (hv : (contextAt source marker.start).isValid = true) :
    ∃ marked : MarkedProperty source, marked.marker = marker := by
  refine exists_markedProperty_of_prop hm fun hp => ?_
  rw [Context.isValid, hp] at hv
  cases hv

end Retheme.Sheet
