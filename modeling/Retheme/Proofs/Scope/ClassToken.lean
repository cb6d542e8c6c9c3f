import Mathlib.Data.Nat.Find
import Retheme.Proofs.Scope.ThemeClass
import Retheme.Proofs.Text.Occurrence

/-!
# Class selectors in custom scopes

A class selector is a whole token of a rule name where no longer name goes on
behind it. A custom scope is put where the selector stands first, be it a whole
token or only the beginning of a longer class. So it rewrites the first whole
token, and nothing without one, exactly when no longer class comes before.
-/

namespace Retheme.Scope

variable {kind : Text → Prop} {rule selector before after front back rest : Text} {c d : Char}

-- ---------------------------------------------------------------------------
-- Tokens
-- ---------------------------------------------------------------------------

def IsClassSelector (selector : Text) : Prop :=
  ∃ name, selector = '.' :: name ∧ name ≠ [] ∧ ∀ c ∈ name, Text.isNameChar c = true

def EndsName (rest : Text) : Prop := ∀ c, rest.head? = some c → Text.isNameChar c = false

/-- The first place where a selector stands in a rule name, among those with a rest of a kind. -/
structure IsFirst (kind : Text → Prop) (selector rule before after : Text) : Prop where
  eq : rule = before ++ selector ++ after
  of_kind : kind after
  le : ∀ front back, rule = front ++ selector ++ back → kind back → before.length ≤ front.length

/-- A rule name is rewritten where a selector is a whole token for the first time, and stays as it
is without one. -/
structure RewritesToken (mode : ScopeMode) (rule selector theme result : Text) : Prop where
  whole : ∀ before after, IsFirst EndsName selector rule before after →
    result = before ++ combined mode selector theme ++ after
  absent : (∀ before after, rule = before ++ selector ++ after → ¬ EndsName after) → result = rule

theorem exists_isFirst (h : rule = before ++ selector ++ after) (hk : kind after) :
    ∃ before after, IsFirst kind selector rule before after := by
  classical
  have hex : ∃ n before after,
      before.length = n ∧ rule = before ++ selector ++ after ∧ kind after :=
    ⟨_, before, after, rfl, h, hk⟩
  obtain ⟨first, rest, hn, he, hr⟩ := Nat.find_spec hex
  refine ⟨first, rest, he, hr, fun front back hf hb => ?_⟩
  rw [hn]
  exact Nat.find_min' hex ⟨front, back, rfl, hf, hb⟩

theorem isFirst_of_cut? (h : Text.cut? selector rule = some (before, after)) :
    IsFirst (fun _ => True) selector rule before after := by
  refine ⟨Text.eq_of_cut? h, trivial, fun front back he _ => ?_⟩
  have ho : Text.OccursAt selector rule front.length :=
    he ▸ Text.occursAt_length front selector back
  exact Text.length_le_of_occursAt h ho

theorem IsFirst.unique {kind' : Text → Prop} (h : IsFirst kind selector rule before after)
    (h' : IsFirst kind' selector rule front back) (hk : kind back) (hk' : kind' after) :
    before = front ∧ after = back := by
  have hl : before.length = front.length :=
    Nat.le_antisymm (h.le front back h'.eq hk) (h'.le before after h.eq hk')
  have he := h.eq.symm.trans h'.eq
  rw [List.append_assoc, List.append_assoc] at he
  obtain ⟨rfl, ht⟩ := List.append_inj he hl
  exact ⟨rfl, List.append_cancel_left ht⟩

-- ---------------------------------------------------------------------------
-- Longer classes
-- ---------------------------------------------------------------------------

theorem ne_dot_of_isNameChar (h : Text.isNameChar c = true) : c ≠ '.' :=
  Text.ne_of_isNameChar h (by decide)

theorem exists_eq_longer {lead : Text} (hs : IsClassSelector selector)
    (hd : Text.isNameChar d = true) (hl : lead ≠ [])
    (h : selector ++ d :: rest = lead ++ (selector ++ back)) :
    ∃ more, lead = selector ++ d :: more := by
  have hlonger : selector ++ [d] <+: selector ++ d :: rest := by simp
  rcases List.prefix_or_prefix_of_prefix hlonger (h ▸ List.prefix_append lead _) with hp | hp
  · obtain ⟨more, rfl⟩ := hp
    exact ⟨more, by simp⟩
  · -- The next dot would be one of the characters of the longer name.
    obtain ⟨name, rfl, -, hn⟩ := hs
    obtain ⟨more, hm⟩ := hp
    cases more with
    | nil => exact ⟨[], by rw [← hm]; simp⟩
    | cons e more =>
      obtain ⟨c, lead, rfl⟩ := List.exists_cons_of_ne_nil hl
      have he : e = '.' := by
        rw [List.append_cons _ d, ← hm] at h
        simpa using congrArg (fun text => (text.drop (c :: lead).length).head?) h
      have hmem : '.' ∈ name ++ [d] := by
        have hn : lead ++ e :: more = name ++ [d] := (List.cons.inj hm).2
        rw [← hn, he]
        simp
      rcases List.mem_append.mp hmem with hmem | hmem
      · exact absurd rfl (ne_dot_of_isNameChar (hn _ hmem))
      · exact absurd (List.mem_singleton.mp hmem).symm (ne_dot_of_isNameChar hd)

theorem not_endsName (hd : Text.isNameChar d = true) (rest : Text) : ¬ EndsName (d :: rest) := by
  intro h
  rw [h d rfl] at hd
  cases hd

theorem combined_append_ne (hs : IsClassSelector selector) (hd : Text.isNameChar d = true)
    (mode : ScopeMode) (more : Text) :
    combined mode selector [] ++ d :: rest ≠
      selector ++ d :: more ++ (combined mode selector [] ++ back) := by
  intro h
  cases mode with
  | joined =>
    have he : selector ++ '.' :: d :: rest =
        selector ++ d :: (more ++ (selector ++ '.' :: back)) := by
      simpa [combined, className] using h
    exact ne_dot_of_isNameChar hd (List.cons.inj (List.append_cancel_left he)).1.symm
  | before =>
    obtain ⟨name, rfl, hne, hn⟩ := hs
    obtain ⟨c, name, rfl⟩ := List.exists_cons_of_ne_nil hne
    have hc : ' ' = c := by
      simpa [combined, className] using congrArg (fun text => (text.drop 1).head?) h
    exact Text.ne_of_isNameChar (hn c List.mem_cons_self) (by decide) hc.symm
  | after =>
    have he : selector ++ ' ' :: '.' :: d :: rest =
        selector ++ d :: (more ++ (selector ++ ' ' :: '.' :: back)) := by
      simpa [combined, className] using h
    exact Text.ne_of_isNameChar hd (by decide) (List.cons.inj (List.append_cancel_left he)).1.symm

-- ---------------------------------------------------------------------------
-- Custom scopes
-- ---------------------------------------------------------------------------

theorem custom_of_isFirst (h : IsFirst (fun _ => True) selector rule before after)
    (mode : ScopeMode) (theme : Text) :
    custom mode rule selector theme = before ++ combined mode selector theme ++ after := by
  rw [custom, Text.replaceFirst]
  cases hc : Text.cut? selector rule with
  | none =>
    have ho : Text.OccursAt selector rule before.length :=
      h.eq ▸ Text.occursAt_length before selector after
    exact absurd ho (Text.not_occursAt_of_cut?_eq_none hc _)
  | some cut =>
    obtain ⟨rfl, rfl⟩ := h.unique (isFirst_of_cut? hc) trivial trivial
    rfl

theorem custom_of_absent (h : ∀ before after, rule ≠ before ++ selector ++ after)
    (mode : ScopeMode) (theme : Text) : custom mode rule selector theme = rule := by
  rw [custom, Text.replaceFirst]
  cases hc : Text.cut? selector rule with
  | none => rfl
  | some cut => exact absurd (Text.eq_of_cut? hc) (h cut.1 cut.2)

theorem rewritesToken_custom (mode : ScopeMode) (theme : Text)
    (h : ∀ before after, IsFirst (fun _ => True) selector rule before after → EndsName after) :
    RewritesToken mode rule selector theme (custom mode rule selector theme) := by
  by_cases ho : ∃ before after, rule = before ++ selector ++ after
  · obtain ⟨_, _, he⟩ := ho
    obtain ⟨before, after, hf⟩ := @exists_isFirst (fun _ => True) _ _ _ _ he trivial
    have hend := h before after hf
    refine ⟨fun front back hw => ?_, fun hn => absurd hend (hn before after hf.eq)⟩
    obtain ⟨rfl, rfl⟩ := hf.unique hw trivial hend
    exact custom_of_isFirst hf mode theme
  · simp only [not_exists] at ho
    exact ⟨fun before after hf => absurd hf.eq (ho before after),
      fun _ => custom_of_absent ho mode theme⟩

/-- A rule name that is rewritten at the beginning of a longer class is not rewritten at a whole
token behind it. -/
theorem combined_ne_of_longer (hs : IsClassSelector selector) (hd : Text.isNameChar d = true)
    (hf : IsFirst (fun _ => True) selector rule before (d :: rest))
    (he : rule = front ++ selector ++ back) (hb : EndsName back) (mode : ScopeMode) :
    before ++ combined mode selector [] ++ d :: rest ≠
      front ++ combined mode selector [] ++ back := by
  have hrule := hf.eq.symm.trans he
  rw [List.append_assoc, List.append_assoc] at hrule
  have hp : before <+: before ++ (selector ++ d :: rest) := List.prefix_append _ _
  obtain ⟨lead, rfl⟩ := List.prefix_of_prefix_length_le hp
    (hrule ▸ List.prefix_append front (selector ++ back)) (hf.le front back he trivial)
  rw [List.append_assoc] at hrule
  have htail := List.append_cancel_left hrule
  have hl : lead ≠ [] := by
    rintro rfl
    have hback : d :: rest = back := List.append_cancel_left htail
    exact not_endsName hd rest (hback ▸ hb)
  obtain ⟨more, rfl⟩ := exists_eq_longer hs hd hl htail
  intro h
  simp only [List.append_assoc] at h
  have hcombined : combined mode selector [] ++ d :: rest =
      selector ++ d :: more ++ (combined mode selector [] ++ back) := by
    simpa only [List.append_assoc] using List.append_cancel_left h
  exact combined_append_ne hs hd mode more hcombined

theorem combined_ne (mode : ScopeMode) (selector theme : Text) :
    combined mode selector theme ≠ selector := by
  intro h
  have hl := congrArg List.length h
  cases mode with
  | joined => simp [combined, className] at hl
  | before =>
    simp only [combined, className, List.length_append, List.length_cons, List.length_nil] at hl
    omega
  | after => simp [combined, className] at hl

/-- A custom scope rewrites the first whole token of a class selector, whatever the theme is called,
and leaves a rule name without one as it is, exactly when the selector does not stand before that as
the beginning of a longer class. -/
theorem custom_rewritesToken_iff (hs : IsClassSelector selector) (mode : ScopeMode) (rule : Text) :
    (∀ theme, RewritesToken mode rule selector theme (custom mode rule selector theme)) ↔
      ∀ before after, IsFirst (fun _ => True) selector rule before after → EndsName after := by
  refine ⟨fun h before after hf d hd => ?_, fun h theme => rewritesToken_custom mode theme h⟩
  rw [← Bool.not_eq_true]
  intro hname
  obtain ⟨rest, rfl⟩ := List.head?_eq_some_iff.mp hd
  -- The empty class tells the places apart.
  have hr := h []
  rw [custom_of_isFirst hf] at hr
  by_cases hw : ∃ front back, rule = front ++ selector ++ back ∧ EndsName back
  · obtain ⟨_, _, he, hb⟩ := hw
    obtain ⟨front, back, hfirst⟩ := exists_isFirst he hb
    exact combined_ne_of_longer hs hname hf hfirst.eq hfirst.of_kind mode
      (hr.whole front back hfirst)
  · have hsame := hr.absent fun front back he hb => hw ⟨front, back, he, hb⟩
    exact combined_ne mode selector []
      (List.append_cancel_left (List.append_cancel_right (hsame.trans hf.eq)))

theorem isClassSelector_btn : IsClassSelector ".btn" :=
  ⟨"btn", by decide, by decide, by decide +kernel⟩

def buttonList : Text := "a.btn .icon,.btn-primary,.btn"

theorem custom_rewritesToken_iff_buttonList :
    IsClassSelector ".btn" ∧
      ((∀ theme, RewritesToken .after buttonList ".btn" theme
          (custom .after buttonList ".btn" theme)) ↔
        ∀ before after, IsFirst (fun _ => True) ".btn" buttonList before after → EndsName after) ∧
      RewritesToken .after buttonList ".btn" "dark" "a.btn .dark .icon,.btn-primary,.btn" := by
  have hiff := custom_rewritesToken_iff isClassSelector_btn .after buttonList
  have hcut : Text.cut? ".btn" buttonList = some (['a'], " .icon,.btn-primary,.btn".toList) := by
    decide
  have hend : ∀ before after, IsFirst (fun _ => True) ".btn" buttonList before after →
      EndsName after := by
    intro before after hf
    obtain ⟨-, rfl⟩ := hf.unique (isFirst_of_cut? hcut) trivial trivial
    rintro c ⟨⟩
    exact Text.isNameChar_of_mem_punctuation ' ' (by decide)
  have hr := hiff.mpr hend "dark"
  rw [custom_of_isFirst (isFirst_of_cut? hcut)] at hr
  exact ⟨isClassSelector_btn, hiff, hr⟩

theorem isFirst_btn : IsFirst EndsName ".btn" ".btn-primary .btn" ".btn-primary " [] := by
  refine ⟨by decide, nofun, fun front back he hb => ?_⟩
  by_contra hl
  have ho : Text.OccursAt ".btn" ".btn-primary .btn" front.length :=
    he ▸ Text.occursAt_length front ".btn" back
  have hplaces : ∀ n < 13, Text.OccursAt ".btn" ".btn-primary .btn" n → n = 0 := by decide
  obtain rfl := List.length_eq_zero_iff.mp (hplaces front.length (Nat.lt_of_not_le hl) ho)
  have hrule : ".btn-primary .btn".toList = ".btn".toList ++ "-primary .btn".toList := by decide
  have hback : "-primary .btn".toList = back := List.append_cancel_left (hrule.symm.trans he)
  exact not_endsName (by decide +kernel) _ (hback ▸ hb)

theorem absent_btn {before after : Text} (h : ".btn-primary".toList = before ++ ".btn" ++ after) :
    ¬ EndsName after := by
  have ho : Text.OccursAt ".btn" ".btn-primary" before.length :=
    h ▸ Text.occursAt_length before ".btn" after
  have hl : before.length + 4 ≤ 12 := ho.length_le (by decide)
  have hplaces : ∀ n ≤ 8, Text.OccursAt ".btn" ".btn-primary" n → n = 0 := by decide
  obtain rfl := List.length_eq_zero_iff.mp (hplaces before.length (by omega) ho)
  have hrule : ".btn-primary".toList = ".btn".toList ++ "-primary".toList := by decide
  have hback : "-primary".toList = after := List.append_cancel_left (hrule.symm.trans h)
  exact hback ▸ not_endsName (by decide +kernel) _

/-- The theme class is put into a longer class, in front of the whole token and without one. -/
theorem not_rewritesToken_custom :
    ¬ RewritesToken .joined ".btn-primary .btn" ".btn" "dark"
        (custom .joined ".btn-primary .btn" ".btn" "dark") ∧
      ¬ RewritesToken .joined ".btn-primary" ".btn" "dark"
        (custom .joined ".btn-primary" ".btn" "dark") := by
  refine ⟨fun h => ?_, fun h => ?_⟩
  · exact absurd (h.whole _ _ isFirst_btn) (by decide)
  · exact absurd (h.absent fun _ _ => absent_btn) (by decide)

end Retheme.Scope
