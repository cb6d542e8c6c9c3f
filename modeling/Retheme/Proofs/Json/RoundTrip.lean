import Retheme.Proofs.Json.Number
import Retheme.Proofs.Json.Quoted
import Retheme.Proofs.Value.Writing

/-!
# Written JSON reads back

The text of a value in any layout is read as the value, when no integer in it
is too long to be read and no map in it has a key twice. The reader counts its
depth down, and the length of the text bounds what is needed of it.
-/

namespace Retheme

-- ---------------------------------------------------------------------------
-- Values that JSON keeps
-- ---------------------------------------------------------------------------

namespace Value

variable {value inner : Value} {items : List Value} {fields : List (Text × Value)} {key : Text}

structure Storable (value : Value) : Prop where
  short : ∀ n, Occurs (int n) value → Integer.isLong n = false
  keys : ∀ fields, Occurs (map fields) value → (Entries.keys fields).Nodup

theorem Storable.item (h : (list items).Storable) (hm : inner ∈ items) : inner.Storable :=
  ⟨fun n ho => h.short n (.item hm ho), fun fields ho => h.keys fields (.item hm ho)⟩

theorem Storable.field (h : (map fields).Storable) (hm : (key, inner) ∈ fields) : inner.Storable :=
  ⟨fun n ho => h.short n (.field hm ho), fun fields ho => h.keys fields (.field hm ho)⟩

theorem storable_text (s : Text) : (text s).Storable :=
  ⟨by rintro n ⟨⟩, by rintro fields ⟨⟩⟩

theorem storable_list (h : ∀ item ∈ items, item.Storable) : (list items).Storable := by
  refine ⟨fun n ho => ?_, fun fields ho => ?_⟩
  · cases ho with
    | item hm ho => exact (h _ hm).short n ho
  · cases ho with
    | item hm ho => exact (h _ hm).keys fields ho

theorem storable_map (hk : (Entries.keys fields).Nodup) (h : ∀ field ∈ fields, field.2.Storable) :
    (map fields).Storable := by
  refine ⟨fun n ho => ?_, fun inner ho => ?_⟩
  · cases ho with
    | field hm ho => exact (h _ hm).short n ho
  · cases ho with
    | here => exact hk
    | field hm ho => exact (h _ hm).keys inner ho

end Value

-- ---------------------------------------------------------------------------
-- Distinct keys
-- ---------------------------------------------------------------------------

namespace Entries

variable {α : Type} {pairs : List (Text × α)}

theorem foldl_set_of_nodup {before : Entries α} (h : (keys (before ++ pairs)).Nodup) :
    pairs.foldl (fun entries pair => set pair.1 pair.2 entries) before = before ++ pairs := by
  induction pairs generalizing before with
  | nil => simp
  | cons pair rest ih =>
    have hnew : pair.1 ∉ keys before := by
      rw [keys, List.map_append, List.map_cons] at h
      exact fun hm => (List.nodup_append.mp h).2.2 pair.1 hm pair.1 (by simp) rfl
    rw [List.foldl_cons, set_of_not_mem pair.2 hnew, ih (by simpa using h)]
    simp

theorem ofPairs_of_nodup (h : (keys pairs).Nodup) : ofPairs pairs = pairs :=
  foldl_set_of_nodup h

end Entries

namespace Json

variable {layout : Layout} {depth : Nat} {rest : Text} {value : Value} {half : Nat → Char}

-- ---------------------------------------------------------------------------
-- Names and numbers
-- ---------------------------------------------------------------------------

theorem readWord_of_digit {c : Char} (hc : Text.isAsciiDigit c = true) (rest : Text) :
    readWord (c :: rest) = none ∧ readWord ('-' :: c :: rest) = none := by
  have hne : ∀ d, Text.isAsciiDigit d = false → (d == c) = false :=
    fun d hd => beq_false_of_ne (isAsciiDigit_ne hc hd).symm
  constructor <;> rw [readWord, List.findSome?_eq_none_iff] <;> rintro ⟨word, value⟩ hw <;>
    simp only [List.mem_cons, Prod.mk.injEq, List.not_mem_nil, or_false] at hw <;>
    rcases hw with ⟨rfl, -⟩ | ⟨rfl, -⟩ | ⟨rfl, -⟩ | ⟨rfl, -⟩ | ⟨rfl, -⟩ | ⟨rfl, -⟩ <;>
    simp [List.isPrefixOf, hne 'n' rfl, hne 't' rfl, hne 'f' rfl, hne 'N' rfl, hne 'I' rfl,
      hne '-' rfl]

theorem readValue_plain {c : Char} (hc : c ≠ '"' ∧ c ≠ '[' ∧ c ≠ '{')
    (hw : readWord (c :: rest) = none) :
    readValue half (depth + 1) (c :: rest) =
      if c = '-' then readNumber true rest else readNumber false (c :: rest) := by
  obtain ⟨hquote, hbracket, hbrace⟩ := hc
  rw [readValue.eq_def]
  split
  · next h => cases h
  · next h _ => exact absurd (List.cons.inj h).1 hquote
  · next h => exact absurd (List.cons.inj h).1 hbracket
  · next h => exact absurd (List.cons.inj h).1 hbrace
  · rw [hw]
    split
    · next h => cases h
    · next h =>
      obtain ⟨rfl, rfl⟩ := List.cons.inj h
      rfl
    · next h =>
      rw [if_neg]
      rintro rfl
      exact h _ rfl

theorem readValue_number (negative : Bool) {magnitude : Text} (hne : magnitude ≠ [])
    (hd : ∀ c, magnitude.head? = some c → Text.isAsciiDigit c = true) :
    readValue half (depth + 1) ((if negative then '-' :: magnitude else magnitude) ++ rest) =
      readNumber negative (magnitude ++ rest) := by
  cases hm : magnitude with
  | nil => exact absurd hm hne
  | cons c more =>
    have hc := hd c (by rw [hm]; rfl)
    obtain ⟨hplain, hminus⟩ := readWord_of_digit hc (more ++ rest)
    cases negative with
    | true => exact readValue_plain (by decide) hminus
    | false =>
      have hne : ∀ d, Text.isAsciiDigit d = false → c ≠ d := fun d => isAsciiDigit_ne hc
      have hkind : readValue half (depth + 1) (c :: (more ++ rest)) = _ :=
        readValue_plain ⟨hne '"' rfl, hne '[' rfl, hne '{' rfl⟩ hplain
      rwa [if_neg (hne '-' rfl)] at hkind

theorem readValue_int {n : Int} (hn : Integer.isLong n = false) (hr : Stops rest) :
    readValue half (depth + 1) (Integer.text n ++ rest) = .ok (.int n, rest) := by
  have hlt : n.natAbs < tenTo Integer.digitLimit := by
    rw [Integer.isLong, decide_eq_false_iff_not] at hn
    exact not_le.mp hn
  have hdigit : ∀ c, (Integer.digits n.natAbs).head? = some c → Text.isAsciiDigit c = true :=
    fun c hc => Integer.isAsciiDigit_of_mem_digits _ c (List.mem_of_mem_head? hc)
  have htext : Integer.text n =
      if decide (n < 0) then '-' :: Integer.digits n.natAbs else Integer.digits n.natAbs := by
    simp only [Integer.text, decide_eq_true_eq]
  have hvalue : (if decide (n < 0) then -(n.natAbs : Int) else n.natAbs) = n := by
    simp only [decide_eq_true_eq]
    split <;> omega
  rw [htext, readValue_number _ (Integer.digits_ne_nil _) hdigit, readNumber_digits _ hlt hr,
    hvalue]

theorem magnitude_spec {x : Float} {negative : Bool} {mantissa : Nat} {exponent : Int}
    (hs : Binary64.shape x = .finite negative mantissa exponent) :
    let magnitude : Text :=
      if mantissa = 0 then "0.0" else (Decimal.shortest mantissa exponent).text
    magnitude ≠ [] ∧ ∀ c, magnitude.head? = some c → Text.isAsciiDigit c = true := by
  intro magnitude
  by_cases hm : mantissa = 0
  · have hzero : magnitude = "0.0".toList := if_pos hm
    rw [hzero]
    refine ⟨by decide, ?_⟩
    rintro c ⟨⟩
    rfl
  · obtain ⟨hx, -⟩ := Binary64.bits_of_shape hs
    obtain ⟨numeral, -, hn⟩ :=
      Decimal.exists_writes false _ (Decimal.shortest_digits_ne_zero hx hm)
    have hmag : magnitude = numeral.magnitude := (if_neg hm).trans hn.text.symm
    rw [hmag, Decimal.Numeral.magnitude, List.append_assoc]
    refine ⟨by simp [hn.whole.ne_nil], fun c hc => ?_⟩
    rw [List.head?_append_of_ne_nil _ hn.whole.ne_nil] at hc
    exact hn.whole.digit c (List.mem_of_mem_head? hc)

theorem readValue_double (x : Float) (hr : Stops rest) :
    readValue half (depth + 1) (double x ++ rest) = .ok (.float x, rest) := by
  cases hs : Binary64.shape x with
  | nan =>
    rw [double, hs, Binary64.eq_nan_of_shape hs]
    rfl
  | infinite negative =>
    rw [double, hs, Binary64.eq_infinity_of_shape hs]
    cases negative <;> rfl
  | finite negative mantissa exponent =>
    obtain ⟨hne, hdigit⟩ := magnitude_spec hs
    rw [double, hs]
    simp only [Decimal.floatText, hs]
    rw [readValue_number negative hne hdigit, readNumber_double hs hr]

-- ---------------------------------------------------------------------------
-- What stands between items
-- ---------------------------------------------------------------------------

theorem isBlank_of_mem_lead (layout : Layout) : ∀ c ∈ layout.lead, isBlank c = true := by
  cases layout with
  | line => simp [Layout.lead]
  | lines step indent =>
    intro c hc
    rcases List.mem_cons.mp hc with rfl | hc
    · rfl
    · rw [List.eq_of_mem_replicate hc]
      rfl

theorem exists_gap_eq (layout : Layout) :
    ∃ blanks : Text, layout.gap = ',' :: blanks ∧ ∀ c ∈ blanks, isBlank c = true := by
  cases layout with
  | line => exact ⟨[' '], rfl, by simp [isBlank]⟩
  | lines step indent => exact ⟨_, rfl, isBlank_of_mem_lead (.lines step indent)⟩

theorem dropWhile_blanks {blanks text : Text} (hb : ∀ c ∈ blanks, isBlank c = true)
    (ht : ∀ c, text.head? = some c → isBlank c = false) :
    (blanks ++ text).dropWhile isBlank = text := (Text.takeWhile_append_of_head hb ht).2

theorem dropWhile_blanks_cons {blanks : Text} {c : Char} (hb : ∀ c ∈ blanks, isBlank c = true)
    (hc : isBlank c = false) (rest : Text) :
    (blanks ++ c :: rest).dropWhile isBlank = c :: rest := by
  refine dropWhile_blanks hb fun d hd => ?_
  obtain rfl := Option.some.inj hd
  exact hc

theorem stops_cons {c : Char} (hc : Text.isAsciiDigit c = false ∧ c ≠ '.' ∧ c ≠ 'e' ∧ c ≠ 'E')
    (rest : Text) : Stops (c :: rest) := by
  intro d hd
  obtain rfl := Option.some.inj hd
  exact hc

theorem stops_blanks {blanks : Text} {c : Char} (hb : ∀ c ∈ blanks, isBlank c = true)
    (hc : Text.isAsciiDigit c = false ∧ c ≠ '.' ∧ c ≠ 'e' ∧ c ≠ 'E') (rest : Text) :
    Stops (blanks ++ c :: rest) := by
  cases blanks with
  | nil => exact stops_cons hc rest
  | cons d blanks =>
    have hd := hb d List.mem_cons_self
    simp only [isBlank, Bool.or_eq_true, decide_eq_true_eq, or_assoc] at hd
    rcases hd with rfl | rfl | rfl | rfl <;> exact stops_cons (by decide) _

theorem exists_write_eq (layout : Layout) (value : Value) :
    ∃ c more, write layout value = c :: more ∧ isBlank c = false ∧ c ≠ ']' := by
  have hdigit : ∀ c, Text.isAsciiDigit c = true → isBlank c = false ∧ c ≠ ']' := by
    intro c hc
    have hne : ∀ d, Text.isAsciiDigit d = false → c ≠ d := fun d => isAsciiDigit_ne hc
    simp [isBlank, hne ' ' rfl, hne '\t' rfl, hne '\n' rfl, hne '\r' rfl, hne ']' rfl]
  have hnumber : ∀ (negative : Bool) (magnitude : Text), magnitude ≠ [] →
      (∀ c, magnitude.head? = some c → Text.isAsciiDigit c = true) →
      ∃ c more, (if negative then '-' :: magnitude else magnitude) = c :: more ∧
        isBlank c = false ∧ c ≠ ']' := by
    intro negative magnitude hne hd
    cases negative with
    | true => exact ⟨'-', magnitude, rfl, by decide⟩
    | false =>
      cases magnitude with
      | nil => exact absurd rfl hne
      | cons c more => exact ⟨c, more, rfl, hdigit c (hd c rfl)⟩
  cases value with
  | null => exact ⟨'n', _, rfl, by decide⟩
  | bool b => cases b <;> exact ⟨_, _, rfl, by decide⟩
  | text s => exact ⟨'"', _, rfl, by decide⟩
  | list items =>
    rw [write, bracketed]
    split <;> exact ⟨'[', _, rfl, by decide⟩
  | map fields =>
    rw [write, bracketed]
    split <;> exact ⟨'{', _, rfl, by decide⟩
  | number n =>
    cases n with
    | int n =>
      have hhead : ∀ c, (Integer.digits n.natAbs).head? = some c → Text.isAsciiDigit c = true :=
        fun c hc => Integer.isAsciiDigit_of_mem_digits _ c (List.mem_of_mem_head? hc)
      simpa [write, Integer.text] using
        hnumber (decide (n < 0)) _ (Integer.digits_ne_nil n.natAbs) hhead
    | float x =>
      rw [write, double]
      cases hs : Binary64.shape x with
      | nan => exact ⟨'N', _, rfl, by decide⟩
      | infinite negative => cases negative <;> exact ⟨_, _, rfl, by decide⟩
      | finite negative mantissa exponent =>
        obtain ⟨hne, hd⟩ := magnitude_spec hs
        simp only [Decimal.floatText, hs]
        exact hnumber negative _ hne hd

-- ---------------------------------------------------------------------------
-- Steps of the reader
-- ---------------------------------------------------------------------------

theorem readItems_last {text more : Text} (hv : readValue half depth text = .ok (value, more))
    (hm : more.dropWhile isBlank = ']' :: rest) :
    readItems half (depth + 1) text = .ok ([value], rest) := by
  rw [readItems]
  simp only [hv, hm, bind, Except.bind, pure, Except.pure]

theorem readItems_next {text more next : Text} {items : List Value}
    (hv : readValue half depth text = .ok (value, more)) (hm : more.dropWhile isBlank = ',' :: next)
    (hi : readItems half depth (next.dropWhile isBlank) = .ok (items, rest)) :
    readItems half (depth + 1) text = .ok (value :: items, rest) := by
  rw [readItems]
  simp only [hv, hm, hi, bind, Except.bind, pure, Except.pure]

/-- A field stands behind an opening quote: its key, a colon and its value. -/
def FieldAt (half : Nat → Char) (depth : Nat) (text key : Text) (value : Value) (more : Text) :
    Prop :=
  ∃ behind after, readString half text = .ok (key, behind) ∧
    behind.dropWhile isBlank = ':' :: after ∧
    readValue half depth (after.dropWhile isBlank) = .ok (value, more)

theorem readFields_last {text more key : Text} (hf : FieldAt half depth text key value more)
    (hm : more.dropWhile isBlank = '}' :: rest) :
    readFields half (depth + 1) ('"' :: text) = .ok ([(key, value)], rest) := by
  obtain ⟨behind, after, hs, hc, hv⟩ := hf
  rw [readFields]
  simp only [hs, hc, hv, hm, bind, Except.bind, pure, Except.pure]

theorem readFields_next {text more next key : Text} {fields : List (Text × Value)}
    (hf : FieldAt half depth text key value more) (hm : more.dropWhile isBlank = ',' :: next)
    (hi : readFields half depth (next.dropWhile isBlank) = .ok (fields, rest)) :
    readFields half (depth + 1) ('"' :: text) = .ok ((key, value) :: fields, rest) := by
  obtain ⟨behind, after, hs, hc, hv⟩ := hf
  rw [readFields]
  simp only [hs, hc, hv, hm, hi, bind, Except.bind, pure, Except.pure]

theorem readValue_text (s rest : Text) :
    readValue half (depth + 1) (string s ++ rest) = .ok (.text s, rest) := by
  have htext : string s ++ rest = '"' :: (s.flatMap stringChar ++ '"' :: rest) := by simp [string]
  rw [htext, readValue.eq_def]
  simp only [readString_flatMap]
  rfl

theorem readValue_list {text more : Text} {c : Char} {items : List Value}
    (ht : text.dropWhile isBlank = c :: more) (hc : c ≠ ']')
    (hi : readItems half depth (c :: more) = .ok (items, rest)) :
    readValue half (depth + 1) ('[' :: text) = .ok (.list items, rest) := by
  rw [readValue, ht]
  split
  · next h => exact absurd (List.cons.inj h).1 hc
  · rw [hi]
    rfl

theorem readValue_map {text more : Text} {fields : List (Text × Value)}
    (ht : text.dropWhile isBlank = '"' :: more)
    (hi : readFields half depth ('"' :: more) = .ok (fields, rest))
    (hn : (Entries.keys fields).Nodup) :
    readValue half (depth + 1) ('{' :: text) = .ok (.map fields, rest) := by
  rw [readValue, ht]
  split
  · next h => exact absurd (List.cons.inj h).1 (by decide)
  · simp only [hi, Except.map, Entries.ofPairs_of_nodup hn]

-- ---------------------------------------------------------------------------
-- Values
-- ---------------------------------------------------------------------------

theorem writeItems_eq (layout : Layout) (items : List Value) :
    writeItems layout items = items.map (write layout) := by
  induction items with
  | nil => rfl
  | cons item items ih => rw [writeItems, ih, List.map_cons]

def fieldText (layout : Layout) (field : Text × Value) : Text :=
  string field.1 ++ ": " ++ write layout field.2

theorem writeFields_eq (layout : Layout) (fields : List (Text × Value)) :
    writeFields layout fields = fields.map (fieldText layout) := by
  induction fields with
  | nil => rfl
  | cons field fields ih => rw [writeFields, ih, List.map_cons, fieldText]

theorem exists_depth (h : (write layout value).length ≤ depth) : ∃ more, depth = more + 1 := by
  obtain ⟨c, more, hw, -⟩ := exists_write_eq layout value
  rw [hw, List.length_cons] at h
  exact ⟨depth - 1, by omega⟩

theorem bracketed_append (layout : Layout) (opening closing : Char) {items : List Text}
    (hi : items ≠ []) (rest : Text) :
    bracketed layout opening closing items ++ rest =
      opening :: (layout.inner.lead ++
        (Text.join layout.inner.gap items ++ (layout.lead ++ closing :: rest))) := by
  simp [bracketed, hi]

theorem length_join_lt {layout : Layout} {opening closing : Char} {items : List Text}
    (hi : items ≠ []) (h : (bracketed layout opening closing items).length ≤ depth + 1) :
    (Text.join layout.inner.gap items).length < depth := by
  have hb := congrArg List.length (bracketed_append layout opening closing hi [])
  simp only [List.append_nil, List.length_cons, List.length_append] at hb
  omega

theorem exists_join_next (layout : Layout) (first next : Text) (more : List Text) :
    ∃ blanks : Text, (∀ c ∈ blanks, isBlank c = true) ∧
      Text.join layout.gap (first :: next :: more) =
        first ++ ',' :: (blanks ++ Text.join layout.gap (next :: more)) := by
  obtain ⟨blanks, hg, hb⟩ := exists_gap_eq layout
  exact ⟨blanks, hb, by simp [Text.join, hg]⟩

theorem exists_join_eq (gap first : Text) (more : List Text) :
    ∃ behind, Text.join gap (first :: more) = first ++ behind := by
  cases more with
  | nil => exact ⟨[], (List.append_nil _).symm⟩
  | cons next more => exact ⟨_, List.append_assoc _ _ _⟩

theorem exists_items_eq (layout : Layout) (item : Value) (items : List Value) (rest : Text) :
    ∃ c more, Text.join layout.gap ((item :: items).map (write layout)) ++ rest = c :: more ∧
      isBlank c = false ∧ c ≠ ']' := by
  obtain ⟨c, more, hw, hc⟩ := exists_write_eq layout item
  obtain ⟨behind, hj⟩ := exists_join_eq layout.gap (write layout item) (items.map (write layout))
  exact ⟨c, more ++ (behind ++ rest), by rw [List.map_cons, hj, hw]; simp, hc⟩

theorem fieldText_append (layout : Layout) (key : Text) (item : Value) (rest : Text) :
    fieldText layout (key, item) ++ rest =
      '"' :: (key.flatMap stringChar ++ '"' :: ':' :: ' ' :: (write layout item ++ rest)) := by
  simp [fieldText, string]

theorem exists_fields_eq (layout : Layout) (field : Text × Value) (fields : List (Text × Value))
    (rest : Text) :
    ∃ more, Text.join layout.gap ((field :: fields).map (fieldText layout)) ++ rest =
      '"' :: more := by
  obtain ⟨behind, hj⟩ :=
    exists_join_eq layout.gap (fieldText layout field) (fields.map (fieldText layout))
  exact ⟨_, by rw [List.map_cons, hj, List.append_assoc, fieldText_append]⟩

theorem length_write_lt (layout : Layout) (key : Text) (item : Value) :
    (write layout item).length < (fieldText layout (key, item)).length := by
  have hf := congrArg List.length (fieldText_append layout key item [])
  simp only [List.append_nil, List.length_cons, List.length_append] at hf
  omega

theorem fieldAt_of_readValue {layout : Layout} {key : Text} {item : Value}
    (hv : readValue half depth (write layout item ++ rest) = .ok (item, rest)) :
    FieldAt half depth
      (key.flatMap stringChar ++ '"' :: ':' :: ' ' :: (write layout item ++ rest)) key item rest := by
  obtain ⟨c, more, hw, hc, -⟩ := exists_write_eq layout item
  refine ⟨_, _, readString_flatMap _ _ _, rfl, ?_⟩
  have hd : (' ' :: (write layout item ++ rest)).dropWhile isBlank = write layout item ++ rest := by
    rw [hw, List.dropWhile_cons_of_pos rfl, List.cons_append,
      List.dropWhile_cons_of_neg (by simp [hc])]
  rw [hd, hv]

-- The induction follows the value. A list holds its items and a map its fields in sequence, and the
-- length of what is still to be read pays for the depth of each step.
mutual
/-- A written value is read back, whatever stops it behind. -/
theorem readValue_write (layout : Layout) (depth : Nat) (rest : Text) :
    ∀ value : Value, value.Storable → (write layout value).length ≤ depth → Stops rest →
      readValue half depth (write layout value ++ rest) = .ok (value, rest)
  | .null, _, hl, _ => by
    obtain ⟨depth, rfl⟩ := exists_depth hl
    rfl
  | .bool b, _, hl, _ => by
    obtain ⟨depth, rfl⟩ := exists_depth hl
    cases b <;> rfl
  | .number (.int n), hs, hl, hr => by
    obtain ⟨depth, rfl⟩ := exists_depth hl
    rw [write]
    exact readValue_int (hs.short n .here) hr
  | .number (.float x), _, hl, hr => by
    obtain ⟨depth, rfl⟩ := exists_depth hl
    rw [write]
    exact readValue_double x hr
  | .text s, _, hl, _ => by
    obtain ⟨depth, rfl⟩ := exists_depth hl
    rw [write]
    exact readValue_text s rest
  | .list [], _, hl, _ => by
    obtain ⟨depth, rfl⟩ := exists_depth hl
    rfl
  | .list (item :: items), hs, hl, _ => by
    obtain ⟨depth, rfl⟩ := exists_depth hl
    rw [write, writeItems_eq] at hl ⊢
    have hi := readItems_write layout.inner depth (isBlank_of_mem_lead layout) rest (item :: items)
      (by simp) (fun _ hm => hs.item hm) (length_join_lt (by simp) hl)
    obtain ⟨c, more, hhead, hc, hclose⟩ :=
      exists_items_eq layout.inner item items (layout.lead ++ ']' :: rest)
    rw [hhead] at hi
    rw [bracketed_append layout '[' ']' (by simp), hhead]
    exact readValue_list (dropWhile_blanks_cons (isBlank_of_mem_lead _) hc more) hclose hi
  | .map [], _, hl, _ => by
    obtain ⟨depth, rfl⟩ := exists_depth hl
    rfl
  | .map (field :: fields), hs, hl, _ => by
    obtain ⟨depth, rfl⟩ := exists_depth hl
    rw [write, writeFields_eq] at hl ⊢
    have hi := readFields_write layout.inner depth (isBlank_of_mem_lead layout) rest
      (field :: fields) (by simp) (fun _ hm => hs.field hm) (length_join_lt (by simp) hl)
    obtain ⟨more, hhead⟩ :=
      exists_fields_eq layout.inner field fields (layout.lead ++ '}' :: rest)
    rw [hhead] at hi
    rw [bracketed_append layout '{' '}' (by simp), hhead]
    exact readValue_map (dropWhile_blanks_cons (isBlank_of_mem_lead _) (by decide) more) hi
      (hs.keys _ .here)

theorem readItems_write (layout : Layout) (depth : Nat) {blanks : Text}
    (hb : ∀ c ∈ blanks, isBlank c = true) (rest : Text) :
    ∀ items : List Value, items ≠ [] → (∀ item ∈ items, item.Storable) →
      (Text.join layout.gap (items.map (write layout))).length < depth →
      readItems half depth
        (Text.join layout.gap (items.map (write layout)) ++ (blanks ++ ']' :: rest)) =
          .ok (items, rest)
  | [], hne, _, _ => absurd rfl hne
  | [item], _, hs, hl => by
    obtain ⟨depth, rfl⟩ : ∃ more, depth = more + 1 := ⟨depth - 1, by omega⟩
    have hv := readValue_write layout depth (blanks ++ ']' :: rest) item
      (hs item (by simp)) (Nat.le_of_lt_succ hl) (stops_blanks hb (by decide) rest)
    exact readItems_last hv (dropWhile_blanks_cons hb (by decide) rest)
  | item :: next :: items, _, hs, hl => by
    obtain ⟨depth, rfl⟩ : ∃ more, depth = more + 1 := ⟨depth - 1, by omega⟩
    obtain ⟨gap, hgap, hjoin⟩ := exists_join_next layout (write layout item) (write layout next)
      (items.map (write layout))
    rw [List.map_cons, List.map_cons, hjoin, ← List.map_cons] at hl ⊢
    simp only [List.length_append, List.length_cons] at hl
    have hi := readItems_write layout depth hb rest (next :: items) (by simp)
      (fun _ hm => hs _ (List.mem_cons_of_mem _ hm)) (by omega)
    obtain ⟨c, more, hhead, hc, -⟩ := exists_items_eq layout next items (blanks ++ ']' :: rest)
    rw [List.append_assoc, List.cons_append, List.append_assoc, hhead]
    rw [hhead] at hi
    have hv := readValue_write layout depth (',' :: (gap ++ c :: more)) item (hs item (by simp))
      (by omega) (stops_cons (by decide) _)
    refine readItems_next hv rfl ?_
    rw [dropWhile_blanks_cons hgap hc]
    exact hi

theorem readFields_write (layout : Layout) (depth : Nat) {blanks : Text}
    (hb : ∀ c ∈ blanks, isBlank c = true) (rest : Text) :
    ∀ fields : List (Text × Value), fields ≠ [] → (∀ field ∈ fields, field.2.Storable) →
      (Text.join layout.gap (fields.map (fieldText layout))).length < depth →
      readFields half depth
        (Text.join layout.gap (fields.map (fieldText layout)) ++ (blanks ++ '}' :: rest)) =
          .ok (fields, rest)
  | [], hne, _, _ => absurd rfl hne
  | [(key, item)], _, hs, hl => by
    obtain ⟨depth, rfl⟩ : ∃ more, depth = more + 1 := ⟨depth - 1, by omega⟩
    have hlen := length_write_lt layout key item
    rw [List.map_singleton, Text.join] at hl ⊢
    have hv := readValue_write layout depth (blanks ++ '}' :: rest) item
      (hs (key, item) (by simp)) (by omega) (stops_blanks hb (by decide) rest)
    rw [fieldText_append]
    exact readFields_last (fieldAt_of_readValue hv) (dropWhile_blanks_cons hb (by decide) rest)
  | (key, item) :: next :: fields, _, hs, hl => by
    obtain ⟨depth, rfl⟩ : ∃ more, depth = more + 1 := ⟨depth - 1, by omega⟩
    have hlen := length_write_lt layout key item
    obtain ⟨gap, hgap, hjoin⟩ := exists_join_next layout (fieldText layout (key, item))
      (fieldText layout next) (fields.map (fieldText layout))
    rw [List.map_cons, List.map_cons, hjoin, ← List.map_cons] at hl ⊢
    simp only [List.length_append, List.length_cons] at hl
    have hi := readFields_write layout depth hb rest (next :: fields) (by simp)
      (fun _ hm => hs _ (List.mem_cons_of_mem _ hm)) (by omega)
    obtain ⟨more, hhead⟩ := exists_fields_eq layout next fields (blanks ++ '}' :: rest)
    rw [List.append_assoc, List.cons_append, List.append_assoc, hhead, fieldText_append]
    rw [hhead] at hi
    have hv := readValue_write layout depth (',' :: (gap ++ '"' :: more)) item
      (hs (key, item) (by simp)) (by omega) (stops_cons (by decide) _)
    refine readFields_next (fieldAt_of_readValue hv) rfl ?_
    rw [dropWhile_blanks_cons hgap (by decide)]
    exact hi
end

theorem readWith_write (half : Nat → Char) (layout : Layout) (hs : value.Storable) :
    readWith half (write layout value) = .ok value := by
  obtain ⟨c, more, hw, hc, -⟩ := exists_write_eq layout value
  have hd : (write layout value).dropWhile isBlank = write layout value := by
    rw [hw, List.dropWhile_cons_of_neg (by simp [hc])]
  have hv : readValue half (2 * (write layout value).length + 2) (write layout value ++ []) =
      .ok (value, []) :=
    readValue_write layout _ [] value hs (by omega) stops_nil
  rw [List.append_nil] at hv
  simp only [readWith, hd, hv, bind, Except.bind]
  rfl

/-- Values that can be kept as JSON are read back from their text in any layout. -/
theorem read_write (layout : Layout) (hs : value.Storable) :
    read (write layout value) = .ok value :=
  readWith_write _ layout hs

theorem isExact_write (layout : Layout) (hs : value.Storable) : IsExact (write layout value) :=
  fun half => (readWith_write half layout hs).trans (read_write layout hs).symm

end Json

end Retheme
