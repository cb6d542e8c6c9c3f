import Retheme.Proofs.Function.InTurn

/-!
# Colours replaced at once

A text is read in one way: what stands at its front tells which colour is put
in there, or that the character stays. A colour that went through the later
passes has at least the number sign it began with, so of two results the one
with such colours has no fewer signs (`Recolors.count_le`). Therefore they come
out alike only where every colour that is put in is the same.
-/

namespace Retheme.Function

open Text (isHexDigit)

variable {pair other : Pair} {pairs : List Pair} {c : Char} {text back written result : Text}
  {color : Pair → Text}

theorem Recolors.congr {color' : Pair → Text} (h : Recolors pairs color text result)
    (hc : ∀ pair ∈ pairs, pair.OccursIn text → color pair = color' pair) :
    Recolors pairs color' text result := by
  induction h with
  | nil => exact .nil
  | replace hp hw _ ih =>
    rw [hc _ hp (Pair.Leads.occursIn ⟨_, _, hw, rfl⟩)]
    exact .replace hp hw (ih fun pair hp hocc => hc pair hp (hocc.append_left _))
  | keep hn _ ih => exact .keep hn (ih fun pair hp hocc => hc pair hp (hocc.cons _))

theorem Recolors.keep_inv (h : Recolors pairs color (c :: text) result)
    (hn : ∀ pair ∈ pairs, ¬ pair.Leads (c :: text)) :
    ∃ more, result = c :: more ∧ Recolors pairs color text more := by
  generalize he : c :: text = whole at h
  cases h with
  | nil => cases he
  | replace hp hw => exact absurd ⟨_, _, hw, he⟩ (hn _ hp)
  | keep _ h =>
    obtain ⟨rfl, rfl⟩ := List.cons.inj he
    exact ⟨_, rfl, h⟩

theorem Distinct.written_unique {written' back' : Text} (h : Distinct pairs) (hp : pair ∈ pairs)
    (ho : other ∈ pairs) (hw : Writes pair.sought written) (hw' : Writes other.sought written')
    (he : written' ++ back' = written ++ back) : other = pair ∧ back' = back := by
  have hbare : ∀ {same same' back back' : Text}, SameDigits pair.sought same →
      SameDigits other.sought same' → same' ++ back' = same ++ back →
        other = pair ∧ back' = back := by
    intro same same' back back' hs hs' he
    obtain ⟨rfl, rfl⟩ :=
      List.append_inj he ((Pair.same_length hs').trans (Pair.same_length hs).symm)
    exact ⟨h.eq_of_same hp ho hs hs', rfl⟩
  have hsign : ∀ {pair : Pair} {same digits back back' : Text}, SameDigits pair.sought same →
      same ++ back ≠ '#' :: digits ++ back' := by
    intro pair same digits back back' hs he
    cases same with
    | nil => exact absurd (Pair.same_length hs) (by decide)
    | cons c same =>
      obtain ⟨rfl, -⟩ := List.cons.inj he
      exact sign_not_mem (Pair.same_hex hs) List.mem_cons_self
  rcases hw with hw | ⟨same, rfl, hw⟩ <;> rcases hw' with hw' | ⟨same', rfl, hw'⟩
  · exact hbare hw hw' he
  · exact absurd he.symm (hsign hw)
  · exact absurd he (hsign hw')
  · exact hbare hw hw' (List.cons.inj he).2

theorem Recolors.plain_inv {front : Text} (h : Recolors pairs color (front ++ text) result)
    (hf : ∀ c ∈ front, (c != '#' && !isHexDigit c) = true) :
    ∃ more, result = front ++ more ∧ Recolors pairs color text more := by
  induction front generalizing result with
  | nil => exact ⟨result, rfl, h⟩
  | cons c front ih =>
    have hkeep : ∀ pair ∈ pairs, ¬ pair.Leads (c :: (front ++ text)) := by
      rintro pair - ⟨written, back, hw, he⟩
      obtain ⟨first, more, rfl, hfirst, -⟩ := Pair.written_cases hw
      obtain ⟨rfl, -⟩ := List.cons.inj he
      rcases hfirst with rfl | hhex
      · exact absurd (hf '#' (by simp)) (by decide)
      · exact absurd (hf c (by simp)) (by simp [hhex])
    obtain ⟨rest, rfl, hrest⟩ := h.keep_inv hkeep
    obtain ⟨more, rfl, hmore⟩ := ih hrest fun d hd => hf d (List.mem_cons_of_mem _ hd)
    exact ⟨more, rfl, hmore⟩

theorem Recolors.replace_inv (h : Recolors pairs color (written ++ back) result)
    (hd : Distinct pairs) (hp : pair ∈ pairs) (hw : Writes pair.sought written) :
    ∃ more, result = color pair ++ more ∧ Recolors pairs color back more := by
  generalize he : written ++ back = whole at h
  cases h with
  | nil =>
    obtain ⟨first, more, rfl, -, -⟩ := Pair.written_cases hw
    cases he
  | replace ho hw' h =>
    obtain ⟨rfl, rfl⟩ := hd.written_unique hp ho hw hw' he.symm
    exact ⟨_, rfl, h⟩
  | keep hn => exact absurd ⟨written, back, hw, he.symm⟩ (hn pair hp)

theorem Recolors.count_le {color' : Pair → Text} {result' : Text} (hd : Distinct pairs)
    (h : Recolors pairs Pair.color text result) (h' : Recolors pairs color' text result')
    (hc : ∀ pair ∈ pairs, ∃ more, color' pair = '#' :: more) :
    result.count '#' ≤ result'.count '#' := by
  induction h generalizing result' with
  | nil => exact Nat.zero_le _
  | @replace pair _ _ _ hp hw _ ih =>
    obtain ⟨more, rfl, hmore⟩ := h'.replace_inv hd hp hw
    obtain ⟨rest, hsign⟩ := hc pair hp
    have hdigits : pair.digits.count '#' = 0 :=
      List.count_eq_zero.mpr (sign_not_mem pair.digits_hex)
    have hle := ih hmore
    simp only [List.count_append, hsign, Pair.color, List.count_cons_self, hdigits]
    omega
  | keep hn _ ih =>
    obtain ⟨more, rfl, hmore⟩ := h'.keep_inv hn
    have hle := ih hmore
    simp only [List.count_cons]
    omega

structure Signed (text : Text) : Prop where
  sign : ∃ more, text = '#' :: more
  sign_or_hex : ∀ c ∈ text, c = '#' ∨ isHexDigit c = true

theorem signed_color (pair : Pair) : Signed pair.color where
  sign := ⟨pair.digits, rfl⟩
  sign_or_hex := fun _ hc => (List.mem_cons.mp hc).imp_right (pair.digits_hex _)

theorem Recolors.signed (h : Recolors pairs color text result) (ht : Signed text)
    (hc : ∀ pair ∈ pairs, Signed (color pair)) : Signed result where
  sign := by
    obtain ⟨more, rfl⟩ := ht.sign
    generalize he : '#' :: more = text at h
    cases h with
    | nil => cases he
    | replace hp =>
      obtain ⟨rest, hsign⟩ := (hc _ hp).sign
      exact ⟨rest ++ _, by rw [hsign, List.cons_append]⟩
    | keep => exact ⟨_, by rw [(List.cons.inj he).1]⟩
  sign_or_hex := by
    have hmem := ht.sign_or_hex
    clear ht
    induction h with
    | nil => exact hmem
    | replace hp _ _ ih =>
      exact List.forall_mem_append.mpr
        ⟨(hc _ hp).sign_or_hex, ih (List.forall_mem_append.mp hmem).2⟩
    | keep _ _ ih =>
      obtain ⟨hfirst, hrest⟩ := List.forall_mem_cons.mp hmem
      exact List.forall_mem_cons.mpr ⟨hfirst, ih hrest⟩

theorem Signed.pass (h : Signed text) (pair : Pair) : Signed (pair.pass text) :=
  (recolors_single_iff.mpr rfl : Recolors [pair] Pair.color text _).signed h
    fun other _ => signed_color other

theorem Signed.passes (h : Signed text) (pairs : List Pair) : Signed (passes pairs text) := by
  induction pairs generalizing text with
  | nil => exact h
  | cons pair later ih => exact ih (h.pass pair)

theorem Distinct.signed_finalColor (h : Distinct pairs) (hp : pair ∈ pairs) :
    Signed (finalColor pairs pair) := by
  obtain ⟨front, later, rfl⟩ := List.append_of_mem hp
  rw [h.finalColor_eq]
  exact (signed_color pair).passes later

theorem Signed.eq_color {final more : Text} (hf : Signed final) (hr : NoDigitLeads result)
    (hm : NoDigitLeads more) (hcount : result.count '#' ≤ more.count '#')
    (he : pair.color ++ result = final ++ more) : final = pair.color ∧ more = result := by
  rcases List.append_eq_append_iff.mp he with ⟨gap, hgap, rfl⟩ | ⟨gap, hgap, rfl⟩
  · cases gap with
    | nil => exact ⟨by simpa using hgap, rfl⟩
    | cons c gap =>
      -- the colour would go on behind its digits with a second sign
      obtain rfl : c = '#' := (hf.sign_or_hex c (by simp [hgap])).resolve_right
        (by simp [hr c (gap ++ more) rfl])
      simp only [List.cons_append, List.count_cons_self, List.count_append] at hcount
      omega
  · cases gap with
    | nil => exact ⟨by simpa using hgap.symm, rfl⟩
    | cons c gap =>
      obtain ⟨rest, hrest⟩ := hf.sign
      rw [hrest] at hgap
      have hdigit : c ∈ pair.digits := by simp [(List.cons.inj hgap).2]
      exact absurd (pair.digits_hex c hdigit) (by simp [hm c (gap ++ result) rfl])

/-- Two replacements at once that come to the same put in the same colours. -/
theorem Recolors.color_eq {final : Pair → Text} (hd : Distinct pairs) (hdel : Delimited pairs text)
    (hf : ∀ pair ∈ pairs, Signed (final pair)) (h : Recolors pairs Pair.color text result)
    (h' : Recolors pairs final text result) :
    ∀ pair ∈ pairs, pair.OccursIn text → final pair = pair.color := by
  have hsign : ∀ pair ∈ pairs, ∃ more, final pair = '#' :: more :=
    fun pair hp => (hf pair hp).sign
  induction h with
  | nil => exact fun pair _ hocc => absurd hocc (not_occursIn_nil pair)
  | @replace pair written back result hp hw h ih =>
    have hb := hdel.behind hp hw
    obtain ⟨more, he, hmore⟩ := h'.replace_inv hd hp hw
    obtain ⟨hone, rfl⟩ := (hf pair hp).eq_color
      (h.noDigitLeads hb fun other _ => ⟨other.digits, rfl⟩) (hmore.noDigitLeads hb hsign)
      (h.count_le hd hmore hsign) he
    intro other ho hocc
    rcases hd.occursIn_written_append hp ho hw hb hocc with rfl | hocc
    · exact hone
    · exact ih hdel.of_append hmore other ho hocc
  | keep hn _ ih =>
    obtain ⟨more, he, hmore⟩ := h'.keep_inv hn
    obtain rfl := (List.cons.inj he).2
    intro pair hp hocc
    have hdel : Delimited pairs ([_] ++ _) := hdel
    exact ih hdel.of_append hmore pair hp ((Pair.occursIn_cons_iff (hn pair hp)).mp hocc)

/-- The passes in turn come to a replacement at once exactly when no later pair changes the colour
in the place of one that occurs. -/
theorem recolors_passes_iff (hd : Distinct pairs) (hdel : Delimited pairs text) :
    Recolors pairs Pair.color text (passes pairs text) ↔
      ∀ front pair later, pairs = front ++ pair :: later → pair.OccursIn text →
        passes later pair.color = pair.color := by
  have hpasses := recolors_passes hd hdel
  constructor
  · rintro h front pair later rfl hocc
    rw [← hd.finalColor_eq]
    exact h.color_eq hd hdel (fun _ => hd.signed_finalColor) hpasses pair (by simp) hocc
  · intro h
    refine hpasses.congr fun pair hp hocc => ?_
    obtain ⟨front, later, rfl⟩ := List.append_of_mem hp
    rw [hd.finalColor_eq, h front pair later rfl hocc]

end Retheme.Function
