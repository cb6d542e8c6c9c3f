import Mathlib.Data.List.Nodup
import Retheme.Proofs.Function.Passes

/-!
# Colours replaced in turn

One pass after another replaces in the text that the passes before it left. An
occurrence in front of no further digit keeps to itself: no pass looks beyond
it, and what is put in its place goes through the later passes alone. So the
passes in turn are one pass with the colours that the later ones left.
-/

namespace Retheme.Function

open Text (isHexDigit hexValue?)

variable {pair other : Pair} {pairs later : List Pair} {c : Char}
  {text back written same run result : Text} {color : Pair → Text}

/-- The pairs are replaced one after another, each in the text that the ones before it left. -/
def RecolorsInTurn : List Pair → Text → Text → Prop
  | [], text, result => text = result
  | pair :: later, text, result =>
    ∃ between, Recolors [pair] Pair.color text between ∧ RecolorsInTurn later between result

def passes (pairs : List Pair) (text : Text) : Text :=
  pairs.foldl (fun text pair => pair.pass text) text

theorem passes_cons (pair : Pair) (later : List Pair) (text : Text) :
    passes (pair :: later) text = passes later (pair.pass text) := rfl

theorem passes_append_list (front later : List Pair) (text : Text) :
    passes (front ++ later) text = passes later (passes front text) := List.foldl_append

theorem recolorsInTurn_iff : RecolorsInTurn pairs text result ↔ passes pairs text = result := by
  induction pairs generalizing text with
  | nil => exact Iff.rfl
  | cons pair later ih =>
    simp only [RecolorsInTurn, recolors_single_iff, ih, exists_eq_left', passes_cons]

/-- Digits in front of a pass stand there already: what is put in begins with a sign. -/
theorem prefix_of_prefix_pass (hr : ∀ c ∈ run, isHexDigit c = true)
    (h : run <+: pair.pass text) : run <+: text := by
  have hpass : Recolors [pair] Pair.color text (pair.pass text) := recolors_single_iff.mpr rfl
  generalize pair.pass text = result at h hpass
  induction hpass generalizing run with
  | nil => exact h
  | replace hp hw _ _ =>
    cases run with
    | nil => exact List.nil_prefix
    | cons first run =>
      obtain ⟨rfl, -⟩ := List.cons_prefix_cons.mp h
      exact absurd List.mem_cons_self (sign_not_mem hr)
  | keep _ _ ih =>
    cases run with
    | nil => exact List.nil_prefix
    | cons first run =>
      obtain ⟨rfl, hrest⟩ := List.cons_prefix_cons.mp h
      exact List.cons_prefix_cons.mpr
        ⟨rfl, ih (fun c hc => hr c (List.mem_cons_of_mem _ hc)) hrest⟩

theorem leads_iff_prefix :
    pair.Leads text ↔ ∃ written, Writes pair.sought written ∧ written <+: text :=
  ⟨fun ⟨written, back, hw, he⟩ => ⟨written, hw, back, he.symm⟩,
    fun ⟨written, hw, back, he⟩ => ⟨written, back, hw, he.symm⟩⟩

theorem leads_of_leads_pass (h : other.Leads (c :: pair.pass text)) : other.Leads (c :: text) := by
  obtain ⟨written, hw, hp⟩ := leads_iff_prefix.mp h
  obtain ⟨first, more, rfl, -, hmore⟩ := Pair.written_cases hw
  obtain ⟨rfl, hrest⟩ := List.cons_prefix_cons.mp hp
  exact leads_iff_prefix.mpr
    ⟨_, hw, List.cons_prefix_cons.mpr ⟨rfl, prefix_of_prefix_pass hmore hrest⟩⟩

/-- A character that no colour stands at stays, whatever is replaced behind it. -/
theorem passes_keep (hn : ∀ pair ∈ pairs, ¬ pair.Leads (c :: text)) :
    passes pairs (c :: text) = c :: passes pairs text := by
  induction pairs generalizing text with
  | nil => rfl
  | cons pair later ih =>
    rw [passes_cons, Pair.pass_keep (hn pair (by simp)), ih, passes_cons]
    exact fun other ho h => hn other (List.mem_cons_of_mem _ ho) (leads_of_leads_pass h)

-- ---------------------------------------------------------------------------
-- Seams
-- ---------------------------------------------------------------------------

def NoDigitLeads (text : Text) : Prop := ∀ c more, text = c :: more → isHexDigit c = false

theorem Recolors.noDigitLeads (h : Recolors pairs color text result) (hb : NoDigitLeads text)
    (hc : ∀ pair ∈ pairs, ∃ more, color pair = '#' :: more) : NoDigitLeads result := by
  intro c more he
  cases h with
  | nil => cases he
  | replace hp =>
    obtain ⟨rest, hsign⟩ := hc _ hp
    rw [hsign, List.cons_append] at he
    exact (List.cons.inj he).1 ▸ sign_not_hex
  | keep =>
    obtain ⟨rfl, -⟩ := List.cons.inj he
    exact hb _ _ rfl

theorem NoDigitLeads.pass (h : NoDigitLeads text) (pair : Pair) : NoDigitLeads (pair.pass text) :=
  (recolors_single_iff.mpr rfl : Recolors [pair] Pair.color text _).noDigitLeads h
    fun other _ => ⟨other.digits, rfl⟩

theorem prefix_of_prefix_append (hr : ∀ c ∈ run, isHexDigit c = true) (hb : NoDigitLeads back)
    (h : run <+: text ++ back) : run <+: text := by
  rcases List.prefix_or_prefix_of_prefix h (List.prefix_append text back) with h' | ⟨rest, rfl⟩
  · exact h'
  · cases rest with
    | nil => simp
    | cons c rest =>
      obtain ⟨more, rfl⟩ := (List.prefix_append_right_inj text).mp h
      exact absurd (hr c (by simp)) (by simp [hb c (rest ++ more) rfl])

theorem leads_append (hb : NoDigitLeads back) :
    pair.Leads (c :: text ++ back) ↔ pair.Leads (c :: text) := by
  constructor
  · intro h
    obtain ⟨written, hw, hp⟩ := leads_iff_prefix.mp h
    obtain ⟨first, more, rfl, -, hmore⟩ := Pair.written_cases hw
    obtain ⟨rfl, hrest⟩ := List.cons_prefix_cons.mp hp
    exact leads_iff_prefix.mpr
      ⟨_, hw, List.cons_prefix_cons.mpr ⟨rfl, prefix_of_prefix_append hmore hb hrest⟩⟩
  · rintro ⟨written, rest, hw, he⟩
    exact ⟨written, rest ++ back, hw, by rw [he, List.append_assoc]⟩

/-- A pass goes over the two sides of a seam on their own. -/
theorem pass_append (hb : NoDigitLeads back) (pair : Pair) :
    pair.pass (text ++ back) = pair.pass text ++ pair.pass back := by
  have hpass : Recolors [pair] Pair.color text (pair.pass text) := recolors_single_iff.mpr rfl
  generalize pair.pass text = result at hpass
  induction hpass with
  | nil => rfl
  | replace hp hw _ ih =>
    obtain rfl := List.mem_singleton.mp hp
    rw [List.append_assoc, Pair.pass_replace hw, ih, List.append_assoc]
  | keep hn _ ih =>
    have hn := mt (leads_append hb).mp (hn pair (List.mem_singleton_self pair))
    rw [List.cons_append] at hn ⊢
    rw [Pair.pass_keep hn, ih, List.cons_append]

theorem passes_append (hb : NoDigitLeads back) :
    passes pairs (text ++ back) = passes pairs text ++ passes pairs back := by
  induction pairs generalizing text back with
  | nil => rfl
  | cons pair later ih =>
    rw [passes_cons, pass_append hb, ih (hb.pass pair), passes_cons, passes_cons]

-- ---------------------------------------------------------------------------
-- Where a colour occurs
-- ---------------------------------------------------------------------------

def Distinct (pairs : List Pair) : Prop := (pairs.map fun pair => pair.sought.map hexValue?).Nodup

def Delimited (pairs : List Pair) (text : Text) : Prop :=
  ∀ pair ∈ pairs, ∀ front same back, SameDigits pair.sought same → text = front ++ same ++ back →
    NoDigitLeads back

theorem Distinct.eq_of_same (h : Distinct pairs) (hp : pair ∈ pairs) (ho : other ∈ pairs)
    (hs : SameDigits pair.sought same) (hs' : SameDigits other.sought same) : other = pair :=
  List.inj_on_of_nodup_map h ho hp (hs'.symm.trans hs)

theorem Delimited.of_append {front : Text} (h : Delimited pairs (front ++ back)) :
    Delimited pairs back := by
  rintro pair hp before same after hs rfl
  exact h pair hp (front ++ before) same after hs (by simp)

theorem Delimited.behind (h : Delimited pairs (written ++ back)) (hp : pair ∈ pairs)
    (hw : Writes pair.sought written) : NoDigitLeads back := by
  rcases hw with hw | ⟨same, rfl, hw⟩
  · exact h pair hp [] written back hw rfl
  · exact h pair hp ['#'] same back hw rfl

theorem sameDigits_of_written {front rest : Text} (hw : Writes pair.sought written)
    (hlen : same.length = 6) (hhex : ∀ c ∈ same, isHexDigit c = true)
    (he : written = front ++ same ++ rest) : SameDigits pair.sought same := by
  have hall : ∀ {digits front : Text}, SameDigits pair.sought digits →
      digits = front ++ same ++ rest → SameDigits pair.sought same := by
    intro digits front hs he
    have hsum := congrArg List.length he
    simp only [List.length_append, Pair.same_length hs, hlen] at hsum
    obtain rfl : front = [] := List.eq_nil_of_length_eq_zero (by omega)
    obtain rfl : rest = [] := List.eq_nil_of_length_eq_zero (by omega)
    simpa [he] using hs
  rcases hw with hw | ⟨digits, rfl, hw⟩
  · exact hall hw he
  · cases front with
    | nil =>
      cases same with
      | nil => exact absurd hlen (by decide)
      | cons c same =>
        obtain ⟨rfl, -⟩ := List.cons.inj he
        exact absurd List.mem_cons_self (sign_not_mem hhex)
    | cons c front => exact hall hw (List.cons.inj he).2

/-- An occurrence in a written colour and what is behind its seam is the colour or stands behind. -/
theorem Distinct.occursIn_written_append (h : Distinct pairs) (hp : pair ∈ pairs)
    (ho : other ∈ pairs) (hw : Writes pair.sought written) (hb : NoDigitLeads back)
    (hocc : other.OccursIn (written ++ back)) : other = pair ∨ other.OccursIn back := by
  obtain ⟨front, same, rest, hs, he⟩ := hocc
  have hhex := Pair.same_hex hs
  have hinside : ∀ {rest : Text}, written = front ++ same ++ rest → other = pair := fun he =>
    h.eq_of_same hp ho (sameDigits_of_written hw (Pair.same_length hs) hhex he) hs
  rcases List.append_eq_append_iff.mp he with ⟨overlap, hfs, rfl⟩ | ⟨overlap, hwritten, -⟩
  · cases overlap with
    | nil => exact .inl (@hinside [] (by simpa using hfs.symm))
    | cons c overlap =>
      rcases List.append_eq_append_iff.mp hfs with ⟨gap, -, rfl⟩ | ⟨gap, -, hgap⟩
      · exact absurd (hhex c (by simp)) (by simp [hb c (overlap ++ rest) rfl])
      · exact .inr ⟨gap, same, rest, hs, congrArg (· ++ rest) hgap⟩
  · exact .inl (hinside hwritten)

theorem not_occursIn_nil (pair : Pair) : ¬ pair.OccursIn [] := by
  rintro ⟨front, same, back, hs, he⟩
  have hlen := congrArg List.length he
  simp only [List.length_append, Pair.same_length hs, List.length_nil] at hlen
  omega

theorem Pair.occursIn_cons_iff (hn : ¬ pair.Leads (c :: text)) :
    pair.OccursIn (c :: text) ↔ pair.OccursIn text := by
  refine ⟨fun ⟨front, same, back, hs, he⟩ => ?_, fun h => h.cons c⟩
  cases front with
  | nil => exact absurd ⟨same, back, .inl hs, he⟩ hn
  | cons first front => exact ⟨front, same, back, hs, (List.cons.inj he).2⟩

theorem recolors_self (hn : ∀ pair ∈ pairs, ¬ pair.OccursIn text) :
    Recolors pairs color text text := by
  induction text with
  | nil => exact .nil
  | cons c text ih =>
    exact .keep (fun pair hp h => hn pair hp h.occursIn) (ih fun pair hp h => hn pair hp (h.cons c))

theorem passes_eq_self (hn : ∀ pair ∈ pairs, ¬ pair.OccursIn text) : passes pairs text = text := by
  induction pairs with
  | nil => rfl
  | cons pair later ih =>
    have hself : pair.pass text = text :=
      recolors_single_iff.mp (recolors_self fun other ho => hn other (by simp_all))
    rw [passes_cons, hself, ih fun other ho => hn other (List.mem_cons_of_mem _ ho)]

-- ---------------------------------------------------------------------------
-- The passes as one
-- ---------------------------------------------------------------------------

/-- A written colour becomes what the later pairs make of the colour in its place. -/
theorem Distinct.passes_written {front : List Pair} (h : Distinct (front ++ pair :: later))
    (hw : Writes pair.sought written) :
    passes (front ++ pair :: later) written = passes later pair.color := by
  have hfront : ∀ other ∈ front, ¬ other.OccursIn written := by
    intro other ho hocc
    have hb : NoDigitLeads [] := fun c more he => nomatch he
    have hmem : other ∈ front ++ pair :: later := List.mem_append_left _ ho
    have hone := h.occursIn_written_append (by simp) hmem hw hb (by simpa using hocc)
    obtain rfl := hone.resolve_right (not_occursIn_nil other)
    rw [Distinct, List.map_append, List.nodup_append] at h
    exact h.2.2 _ (List.mem_map_of_mem ho) _ (by simp) rfl
  have hpass : pair.pass written = pair.color := by
    simpa [Pair.pass_nil] using Pair.pass_replace hw []
  rw [passes_append_list, passes_eq_self hfront, passes_cons, hpass]

def finalColor (pairs : List Pair) (pair : Pair) : Text := passes pairs pair.sought

theorem Distinct.finalColor_eq {front : List Pair} (h : Distinct (front ++ pair :: later)) :
    finalColor (front ++ pair :: later) pair = passes later pair.color :=
  h.passes_written (.inl rfl)

/-- The passes in turn are one that puts in what the later passes leave of a colour. -/
theorem recolors_passes (hd : Distinct pairs) (hdel : Delimited pairs text) :
    Recolors pairs (finalColor pairs) text (passes pairs text) := by
  induction text using reading_induction pairs with
  | nil =>
    rw [passes_eq_self fun pair _ => not_occursIn_nil pair]
    exact .nil
  | replace pair hp written back hw ih =>
    obtain ⟨front, later, rfl⟩ := List.append_of_mem hp
    rw [passes_append (hdel.behind hp hw), hd.passes_written hw, ← hd.finalColor_eq]
    exact .replace hp hw (ih hdel.of_append)
  | keep c back hn ih =>
    have hdel : Delimited pairs ([c] ++ back) := hdel
    rw [passes_keep hn]
    exact .keep hn (ih hdel.of_append)

end Retheme.Function
