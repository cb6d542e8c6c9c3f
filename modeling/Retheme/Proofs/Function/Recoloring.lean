import Retheme.Proofs.Function.AtOnce
import Retheme.Proofs.Text.Base64
import Retheme.Proofs.Text.Blank
import Retheme.Proofs.Text.Utf8

/-!
# Recoloured pictures read back

The address of a recoloured picture holds the text in which the colours are
replaced in turn. A later pair takes up what an earlier one put in, so this is
the picture with every colour replaced by its own only where the later pairs
leave those colours alone (`mapSvgColors_recolors_iff`). Two colours are not
exchanged (`not_recolors_exchanged`).
-/

namespace Retheme.Function

open Step Text

-- ---------------------------------------------------------------------------
-- Arguments
-- ---------------------------------------------------------------------------

/-- A pair as two arguments ask for it: the colour that is sought, with a number sign or without,
and a value whose text is the colour in its place; six digits need no number sign. -/
structure Request where
  pair : Pair
  original : Text
  original_eq : original = pair.sought ∨ original = '#' :: pair.sought
  replacement : Value
  replacement_eq : replacement.declared? = .ok (some pair.color) ∨
    pair.digits.length = 6 ∧ replacement.declared? = .ok (some pair.digits)

def recolorArguments (picture : Text) (requests : List Request) : List Value :=
  .text picture :: .text (join ['|'] (requests.map (·.original))) :: requests.map (·.replacement)

variable {request : Request} {requests : List Request} {picture : Text}

theorem isBlank_table : ∀ code < 0x67, isHexDigit (Char.ofNat code) = true →
    isBlank (Char.ofNat code) = false := by decide +kernel

theorem isBlank_of_isHexDigit {c : Char} (h : isHexDigit c = true) : isBlank c = false := by
  obtain ⟨n, hn⟩ := Option.isSome_iff_exists.mp h
  have hrange := (hexValue?_range hn).1
  have htable := isBlank_table c.toNat (by omega)
  rw [Char.ofNat_toNat] at htable
  exact htable h

theorem Request.mem_original {c : Char} (h : c ∈ request.original) :
    c = '#' ∨ isHexDigit c = true := by
  rcases request.original_eq with he | he <;> rw [he] at h
  · exact .inr (request.pair.sought_hex c h)
  · exact (List.mem_cons.mp h).imp_right (request.pair.sought_hex c)

theorem Request.bar_not_mem (request : Request) : '|' ∉ request.original := fun h => by
  rcases Request.mem_original h with h | h
  · cases h
  · exact absurd h (by decide)

theorem Request.strip_original (request : Request) : request.original.strip = request.original := by
  have hblank : ∀ c ∈ request.original, isBlank c = false := fun c hc => by
    rcases Request.mem_original hc with rfl | h
    · decide
    · exact isBlank_of_isHexDigit h
  exact trim_eq_self (fun d hd => hblank d (List.mem_of_head? hd))
    fun d hd => hblank d (List.mem_of_getLast? hd)

theorem Request.digits_original (request : Request) :
    request.original.dropWhile (· = '#') = request.pair.sought := by
  have hbare : request.pair.sought.dropWhile (· = '#') = request.pair.sought := by
    have hhex := request.pair.sought_hex
    generalize request.pair.sought = digits at hhex
    cases digits with
    | nil => rfl
    | cons c digits =>
      refine List.dropWhile_cons_of_neg fun h => ?_
      obtain rfl := of_decide_eq_true h
      exact sign_not_mem hhex List.mem_cons_self
  rcases request.original_eq with he | he <;> rw [he]
  · exact hbare
  · rwa [List.dropWhile_cons_of_pos rfl]

theorem Request.original_ne_nil (request : Request) : request.original ≠ [] := by
  intro h
  have hdigits := request.digits_original
  rw [h] at hdigits
  exact absurd (hdigits ▸ request.pair.length_eq) (by decide)

theorem Request.replacementColor_eq (request : Request) :
    replacementColor request.replacement = .ok request.pair.color := by
  rcases request.replacement_eq with h | ⟨hlen, h⟩ <;>
    simp only [replacementColor, declaredOrEmpty, h, Except.map, Option.getD_some, bind,
      Except.bind]
  · rw [if_neg]
    · rfl
    · simp [isSixDigits, Pair.color, sign_not_hex]
  · rw [if_pos]
    · rfl
    · have hall := request.pair.digits_hex
      rw [isSixDigits, List.take_of_length_le hlen.le, List.drop_of_length_le hlen.le, hlen]
      simpa using hall

-- ---------------------------------------------------------------------------
-- The address
-- ---------------------------------------------------------------------------

theorem recolored_requests (requests : List Request) (picture : Text) :
    recolored picture (requests.map fun request => (request.original, request.replacement)) =
      .ok (passes (requests.map (·.pair)) picture) := by
  induction requests generalizing picture with
  | nil => rfl
  | cons request requests ih =>
    rw [List.map_cons, recolored, request.replacementColor_eq, request.digits_original]
    exact ih _

/-- The bytes of the recoloured picture are written behind the head of the address, and nothing is
reported. -/
theorem run_mapSvgColors_of_recolored {sought result : Text} {originals : List Text}
    {replacement : Value} {more : List Value} (hp : picture ≠ []) (hs : sought ≠ [])
    (hsplit : (sought.split '|').map strip = originals)
    (hlen : originals.length = (replacement :: more).length)
    (hr : recolored picture (originals.zip (replacement :: more)) = .ok result) (log : List Event) :
    run (mapSvgColors (.text picture :: .text sought :: replacement :: more)) log =
      (.ok (.text ("data:image/svg+xml;base64,".toList ++ base64 result.utf8)), log) := by
  have hargs : (!(Value.text picture).truthy || !(Value.text sought).truthy) = false := by
    simp [Value.truthy, hp, hs]
  simp only [mapSvgColors, hargs, Bool.false_eq_true, if_false, Value.shown, run_bind, run_pure,
    run_ofExcept, hsplit, hlen, ne_eq, not_true_eq_false, hr]

theorem run_mapSvgColors (hp : picture ≠ []) (hr : requests ≠ []) (log : List Event) :
    run (mapSvgColors (recolorArguments picture requests)) log =
      (.ok (.text ("data:image/svg+xml;base64,".toList ++
        base64 (passes (requests.map (·.pair)) picture).utf8)), log) := by
  have hsplit : ((join ['|'] (requests.map (·.original))).split '|').map strip =
      requests.map (·.original) := by
    rw [split_join (by simpa using hr) (by simpa using fun request _ => request.bar_not_mem),
      List.map_map]
    exact List.map_congr_left fun request _ => request.strip_original
  obtain ⟨first, more, rfl⟩ := List.exists_cons_of_ne_nil hr
  have hjoin : join ['|'] ((first :: more).map (·.original)) ≠ [] := by
    obtain ⟨c, rest, ho⟩ := List.exists_cons_of_ne_nil first.original_ne_nil
    have hhead := @head?_join c first.original (more.map (·.original)) ['|'] (by rw [ho]; rfl)
    intro hnil
    have hnone : some c = none := hhead.symm.trans (congrArg List.head? hnil)
    cases hnone
  have hzip := recolored_requests (first :: more) picture
  rw [← List.zip_map'] at hzip
  exact run_mapSvgColors_of_recolored hp hjoin hsplit (by simp) hzip log

/-- What the address of a recoloured picture holds is the picture with the colours replaced in
turn. -/
theorem mapSvgColors_recolors_iff (hp : picture ≠ []) (hr : requests ≠ [])
    (hd : Distinct (requests.map (·.pair))) :
    ∃ payload result : Text,
      (∀ log, run (mapSvgColors (recolorArguments picture requests)) log =
        (.ok (.text ("data:image/svg+xml;base64,".toList ++ payload)), log)) ∧
      (ofBase64? payload).bind ofUtf8? = some result ∧
      RecolorsInTurn (requests.map (·.pair)) picture result ∧
      ((∀ request ∈ requests, ¬ request.pair.OccursIn picture) → result = picture) ∧
      (Delimited (requests.map (·.pair)) picture →
        (Recolors (requests.map (·.pair)) Pair.color picture result ↔
          ∀ front pair later, requests.map (·.pair) = front ++ pair :: later →
            pair.OccursIn picture → RecolorsInTurn later pair.color pair.color)) := by
  refine ⟨_, passes (requests.map (·.pair)) picture, run_mapSvgColors hp hr, ?_,
    recolorsInTurn_iff.mpr rfl, fun hn => ?_, fun hdel => ?_⟩
  · rw [ofBase64?_base64, Option.bind_some, ofUtf8?_utf8]
  · exact passes_eq_self (by simpa using hn)
  · simp only [recolorsInTurn_iff]
    exact recolors_passes_iff hd hdel

def exchange : List Request :=
  [{ pair := ⟨"ff0000".toList, rfl, List.all_eq_true.mp rfl, "00ff00".toList,
       List.all_eq_true.mp rfl⟩
     original := "#ff0000".toList
     original_eq := .inr rfl
     replacement := .text "#00ff00".toList
     replacement_eq := .inl rfl },
   { pair := ⟨"00ff00".toList, rfl, List.all_eq_true.mp rfl, "ff0000".toList,
       List.all_eq_true.mp rfl⟩
     original := "#00ff00".toList
     original_eq := .inr rfl
     replacement := .text "#ff0000".toList
     replacement_eq := .inl rfl }]

theorem distinct_exchange : Distinct (exchange.map (·.pair)) := by
  rw [Distinct]
  decide

theorem passes_exchange : passes (exchange.map (·.pair)) "<svg #ff0000 #00ff00>".toList =
    "<svg #ff0000 #ff0000>".toList := by
  cbv

theorem mapSvgColors_recolors_iff_exchange :
    ∃ payload : Text,
      (∀ log, run (mapSvgColors (recolorArguments "<svg #ff0000 #00ff00>".toList exchange)) log =
        (.ok (.text ("data:image/svg+xml;base64,".toList ++ payload)), log)) ∧
      (ofBase64? payload).bind ofUtf8? = some "<svg #ff0000 #ff0000>".toList := by
  obtain ⟨payload, result, hrun, hread, hturn, -⟩ :=
    @mapSvgColors_recolors_iff exchange "<svg #ff0000 #00ff00>".toList (by decide) (by decide)
      distinct_exchange
  rw [recolorsInTurn_iff, passes_exchange] at hturn
  exact ⟨payload, hrun, hread.trans (congrArg some hturn.symm)⟩

/-- The second pair turns back what the first put in. -/
theorem not_recolors_exchanged :
    ¬ ∃ payload result : Text,
      (∀ log, run (mapSvgColors (recolorArguments "<svg #ff0000 #00ff00>".toList exchange)) log =
        (.ok (.text ("data:image/svg+xml;base64,".toList ++ payload)), log)) ∧
      (ofBase64? payload).bind ofUtf8? = some result ∧
      Recolors (exchange.map (·.pair)) Pair.color "<svg #ff0000 #00ff00>".toList result := by
  rintro ⟨payload, result, hrun, hread, hrecolors⟩
  have hresult : result = "<svg #ff0000 #ff0000>".toList := by
    have hboth := (run_mapSvgColors (by decide) (by decide) []).symm.trans (hrun [])
    have hpayload := List.append_cancel_left (Value.text.inj (Except.ok.inj (Prod.mk.inj hboth).1))
    rw [← hpayload, ofBase64?_base64, Option.bind_some, ofUtf8?_utf8] at hread
    exact (Option.some.inj hread).symm.trans passes_exchange
  have hwhole : Recolors (exchange.map (·.pair)) Pair.color
      ("<svg ".toList ++ ("#ff0000".toList ++ " #00ff00>".toList)) result := hrecolors
  obtain ⟨more, hfront, hmore⟩ := hwhole.plain_inv (List.all_eq_true.mp rfl)
  obtain ⟨rest, rfl, -⟩ := hmore.replace_inv distinct_exchange (List.mem_cons_self ..)
    (.inr ⟨_, rfl, rfl⟩)
  have hgreen : result = "<svg #00ff00".toList ++ rest := hfront
  rw [hresult] at hgreen
  exact absurd (congrArg (List.take 12) hgreen) (by simp)

end Retheme.Function
