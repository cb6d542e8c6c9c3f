import Retheme.Proofs.Expression.RoundTrip
import Retheme.Proofs.Flat.Basic
import Retheme.Proofs.Processor.Scan
import Retheme.Proofs.Sheet.Declaration
import Retheme.Proofs.Sheet.Marker
import Retheme.Proofs.Sheet.Reading

/-!
# The markers of a flat sheet

A reader goes over a flat sheet from the front. Between rules and inside of
them it knows where it stands, so each marker is found with its declaration, its
flag and the selectors of its rule, and gives the override they ask for.
-/

namespace Retheme.Flat

open Expression (DottedPath Written)
open Sheet (Inside Between header markersFrom markerOpen markerClose)

variable {theme : Theme} {front rest : Text} {selectors : List Text}

-- ---------------------------------------------------------------------------
-- Declarations
-- ---------------------------------------------------------------------------

def valueMarks : Text := "\x7b\x7d;/!\n".toList

theorem ne_of_isValueChar {c d : Char} (h : isValueChar c = true) (hd : d ∈ valueMarks) : c ≠ d := by
  rcases (Bool.or_eq_true _ _).mp h with h | h
  · have hm : ∀ d ∈ valueMarks, d ∈ Text.punctuation := by decide
    exact Text.ne_of_isNameChar (Text.isNameChar_of_isWord h) (hm d hd)
  · have hs : ∀ c ∈ "#.%-,() ".toList, ∀ d ∈ valueMarks, c ≠ d := by decide
    exact hs c (of_decide_eq_true h) d hd

theorem importantFlag_cons : ∃ rest, Sheet.importantFlag = '!' :: rest := ⟨_, rfl⟩

theorem flag_true : flag true = ' ' :: Sheet.importantFlag := rfl

theorem flag_chars (important : Bool) :
    ∀ c ∈ flag important, c ≠ '{' ∧ c ≠ '}' ∧ c ≠ ';' ∧ c ≠ '/' ∧ c ≠ '\n' := by
  cases important <;> decide

namespace Declaration

variable (declaration : Declaration)

def body : Text :=
  declaration.prop.text ++ ": " ++ declaration.value ++ flag declaration.important ++ [';']

theorem text_eq : declaration.text = markerText declaration.path ++ declaration.body := rfl

theorem value_flag_chars : ∀ c ∈ declaration.value ++ flag declaration.important,
    c ≠ '{' ∧ c ≠ '}' ∧ c ≠ ';' ∧ c ≠ '/' ∧ c ≠ '\n' := by
  intro c hc
  rcases List.mem_append.mp hc with hc | hc
  · have hv (d : Char) (hd : d ∈ valueMarks) : c ≠ d :=
      ne_of_isValueChar (declaration.value_chars c hc) hd
    exact ⟨hv _ (by decide), hv _ (by decide), hv _ (by decide), hv _ (by decide),
      hv _ (by decide)⟩
  · exact flag_chars declaration.important c hc

theorem prop_chars {c d : Char} (hc : c ∈ declaration.prop.text) (hd : d ∈ Text.punctuation) :
    c ≠ d :=
  Text.ne_of_isNameChar (declaration.prop.nameChars c hc) hd

theorem body_eq : declaration.body = declaration.prop.text ++
    ':' :: ' ' :: ((declaration.value ++ flag declaration.important) ++ [';']) := by
  simp [body]

theorem body_chars : ∀ c ∈ declaration.body, c ≠ '/' ∧ c ≠ '{' := by
  intro c hc
  rw [body_eq] at hc
  rcases List.mem_append.mp hc with hc | hc
  · exact ⟨declaration.prop_chars hc (by decide), declaration.prop_chars hc (by decide)⟩
  · rcases List.mem_cons.mp hc with rfl | hc
    · decide
    · rcases List.mem_cons.mp hc with rfl | hc
      · decide
      · rcases List.mem_append.mp hc with hc | hc
        · have hv := declaration.value_flag_chars c hc
          exact ⟨hv.2.2.2.1, hv.1⟩
        · rw [List.mem_singleton.mp hc]
          decide

theorem occursIn_flag :
    Sheet.importantFlag.occursIn (' ' :: (declaration.value ++ flag declaration.important)) =
      declaration.important := by
  cases hi : declaration.important with
  | true =>
    rw [Text.occursIn_iff]
    exact ⟨' ' :: declaration.value ++ [' '], [], by simp [flag_true]⟩
  | false =>
    have hv : '!' ∉ declaration.value :=
      fun hm => ne_of_isValueChar (declaration.value_chars _ hm) (by decide) rfl
    obtain ⟨rest, hr⟩ := importantFlag_cons
    rw [hr]
    exact Text.occursIn_of_not_mem (by simp [flag, hv])

end Declaration

theorem not_mem_path (path : DottedPath) {c : Char} (hc : c ∈ ['*', ']']) : c ∉ path.text := by
  have hs : ∀ c ∈ ['*', ']'], c ∈ Text.punctuation ∧ c ≠ '.' := by decide
  exact path.not_mem (hs c hc).1 (hs c hc).2

theorem contextAt_marked {name : Text} (h : Inside front name) (path : DottedPath)
    (declaration : Declaration) (rest : Text) :
    Sheet.contextAt (front ++ (markerOpen ++ path.text ++ markerClose ++
      (' ' :: declaration.body ++ rest))) front.length =
        ⟨declaration.prop.text, name, declaration.important⟩ := by
  have hm := Sheet.afterMarker?_append front (' ' :: declaration.body ++ rest)
    (not_mem_path path (c := ']') (by decide))
  have hb : ' ' :: declaration.body ++ rest = ' ' :: declaration.prop.text ++ ':' :: ' ' ::
      ((declaration.value ++ flag declaration.important) ++ ';' :: rest) := by
    simp [Declaration.body_eq]
  have hp : Text.removeBlanks (' ' :: declaration.prop.text) = declaration.prop.text :=
    Text.removeBlanks_eq_self fun c hc =>
      Text.isBlank_of_isNameChar (declaration.prop.nameChars c hc)
  have hn : Sheet.ruleNameAt (front ++ (markerOpen ++ path.text ++ markerClose) ++
      (' ' :: declaration.body ++ rest))
        (front ++ (markerOpen ++ path.text ++ markerClose)).length = name :=
    (h.pass_marker (not_mem_path path (c := '*') (by decide))).ruleNameAt (by simp)
  have hv : Sheet.firstLineValue? ((':' :: ' ' :: ((declaration.value ++
      flag declaration.important) ++ ';' :: rest)).take Sheet.importantReach) =
        some (' ' :: (declaration.value ++ flag declaration.important)) := by
    refine Sheet.firstLineValue?_take ?_ ?_ rest
    · intro c hc
      have hc := declaration.value_flag_chars c hc
      exact ⟨hc.2.2.1, hc.2.1, hc.2.2.2.2⟩
    · have hf := declaration.fits
      simp only [List.length_append] at hf ⊢
      exact Nat.le_trans (Nat.le_of_eq (by simp; omega)) hf
  have hc : ':' ∉ ' ' :: declaration.prop.text := by
    intro hm
    rcases List.mem_cons.mp hm with hm | hm
    · cases hm
    · exact declaration.prop_chars hm (by decide) rfl
  have hs : ∀ c ∈ ' ' :: declaration.prop.text, c ≠ '{' ∧ c ≠ '}' ∧ c ≠ ';' := by
    intro c hm
    rcases List.mem_cons.mp hm with rfl | hm
    · decide
    · exact ⟨declaration.prop_chars hm (by decide), declaration.prop_chars hm (by decide),
        declaration.prop_chars hm (by decide)⟩
  rw [hb] at hm hn ⊢
  rw [List.append_assoc] at hn
  rw [Sheet.contextAt_eq hm hc (by rw [hp]; exact declaration.prop.ne_nil) hs, hp, hv,
    Option.any_some, declaration.occursIn_flag, hn]

-- ---------------------------------------------------------------------------
-- Markers
-- ---------------------------------------------------------------------------

def Resolved.override (theme : Theme) (marker : Resolved) : Override where
  rule := underClass theme marker.selectors
  prop := marker.prop
  value := marker.leaf
  key := marker.key
  important := marker.important

/-- What the marker of a declaration gives, if it has one: an override, or nothing. -/
def Declaration.results (theme : Theme) (selectors : List Text) (declaration : Declaration) :
    List (Option Override) :=
  declaration.path.toList.map fun _ =>
    (declaration.resolved? theme selectors).map (Resolved.override theme)

theorem run_evaluate_text {declaration : Declaration} (hl : declaration.HasTextLeaf theme)
    {path : DottedPath} (hd : declaration.path = some path) (source : Text) (position : Int)
    (processor : Processor) :
    Step.run (Processor.evaluate path.text theme source position) processor =
      (.ok (leaf? theme path), processor) := by
  have hn : (Expression.path path.segments path.text).toNode = (Written.path path).node := rfl
  have hp : Expression.parse path.text = .ok (.path path.segments path.text) :=
    Written.parse_text hn
  rw [Processor.run_evaluate_path hp]
  rcases hl path hd with hl | ⟨leaf, hl⟩
  · rw [leaf?, hl]
    rfl
  · rw [leaf?, hl]
    rfl

theorem join_ne_nil (hn : selectors ≠ [])
    (hp : ∀ selector ∈ selectors, Sheet.IsPlainSelector selector) :
    Text.join [','] selectors ≠ [] := by
  cases selectors with
  | nil => exact absurd rfl hn
  | cons first rest =>
    obtain ⟨c, hc, -⟩ := (hp first List.mem_cons_self).head
    intro he
    have hh : (Text.join [','] (first :: rest)).head? = some c := Text.head?_join [','] hc
    rw [he] at hh
    cases hh

theorem gives_marked (hn : selectors ≠ [])
    (hp : ∀ selector ∈ selectors, Sheet.IsPlainSelector selector)
    (h : Inside front (Text.join [','] selectors)) {declaration : Declaration} {path : DottedPath}
    (hd : declaration.path = some path) (hl : declaration.HasTextLeaf theme) (rest : Text)
    (stop : Nat) :
    Processor.Gives (front ++ (markerOpen ++ path.text ++ markerClose ++
      (' ' :: declaration.body ++ rest))) theme ⟨path.text.strip, front.length, stop⟩
        ((declaration.resolved? theme selectors).map (Resolved.override theme)) := by
  have hs : path.text.strip = path.text := (Written.path path).strip_text
  have hc := contextAt_marked h path declaration rest
  rw [hs, Declaration.resolved?, hd, Option.bind_some]
  generalize front ++ (markerOpen ++ path.text ++ markerClose ++ (' ' :: declaration.body ++ rest)) =
    source at hc ⊢
  have he (processor : Processor) :
      Step.run (Processor.evaluate path.text theme source front.length) processor =
        (.ok (leaf? theme path), processor) := run_evaluate_text hl hd source front.length processor
  cases hf : leaf? theme path with
  | none =>
    rw [hf] at he
    exact Processor.gives_none he
  | some leaf =>
    rw [hf] at he
    have hv : (Sheet.contextAt source front.length).isValid = true := by
      rw [hc, Sheet.Context.isValid]
      simp [declaration.prop.ne_nil, join_ne_nil hn hp]
    have hg : Processor.Gives source theme ⟨path.text, front.length, stop⟩ (some
        { rule := Scope.standard (Sheet.contextAt source front.length).rule theme.name
          prop := (Sheet.contextAt source front.length).prop
          value := leaf
          key := Text.lastPiece '.' path.text
          important := (Sheet.contextAt source front.length).important }) :=
      Processor.gives_some he hv
    rw [hc, Sheet.standard_join hn hp] at hg
    exact hg

def declarationsText (declarations : List Declaration) : Text :=
  declarations.flatMap fun declaration => ' ' :: declaration.text

theorem Declaration.body_pass {name : Text} (h : Inside front name) (declaration : Declaration) :
    Inside (front ++ ' ' :: declaration.body) name := by
  refine h.pass_plain ?_ (by simp)
  intro c hc
  rcases List.mem_cons.mp hc with rfl | hc
  · decide
  · exact declaration.body_chars c hc

theorem Declaration.slash_not_mem_body (declaration : Declaration) :
    '/' ∉ ' ' :: declaration.body := by
  intro hm
  rcases List.mem_cons.mp hm with hm | hm
  · cases hm
  · exact (declaration.body_chars _ hm).1 rfl

/-- One declaration: a reader inside of a rule is still inside of it, and its marker gives the
override it asks for. -/
theorem gives_declaration {source : Text} {after : List (Option Override)} (hn : selectors ≠ [])
    (hp : ∀ selector ∈ selectors, Sheet.IsPlainSelector selector)
    (h : Inside front (Text.join [','] selectors)) {declaration : Declaration}
    (hl : declaration.HasTextLeaf theme) (hs : source = front ++ (' ' :: declaration.text ++ rest))
    (ha : Inside (front ++ ' ' :: declaration.text) (Text.join [','] selectors) →
      List.Forall₂ (Processor.Gives source theme)
        (markersFrom (front ++ ' ' :: declaration.text).length rest) after) :
    List.Forall₂ (Processor.Gives source theme)
      (markersFrom front.length (' ' :: declaration.text ++ rest))
      (declaration.results theme selectors ++ after) := by
  cases hd : declaration.path with
  | none =>
    have ht : declaration.text = declaration.body := by
      rw [declaration.text_eq, hd, markerText, List.nil_append]
    have hr : declaration.results theme selectors = [] := by
      rw [Declaration.results, hd, Option.toList_none, List.map_nil]
    rw [ht] at ha
    rw [ht, hr, Sheet.markersFrom_append_left declaration.slash_not_mem_body, ← List.length_append]
    exact ha (declaration.body_pass h)
  | some path =>
    have ht : ' ' :: declaration.text =
        [' '] ++ (markerOpen ++ path.text ++ markerClose ++ ' ' :: declaration.body) := by
      simp [Declaration.text_eq, markerText, hd]
    have hr : declaration.results theme selectors =
        [(declaration.resolved? theme selectors).map (Resolved.override theme)] := by
      rw [Declaration.results, hd, Option.toList_some, List.map_singleton]
    have hb : Inside (front ++ [' ']) (Text.join [','] selectors) :=
      h.pass_plain (by decide) (by decide)
    have hm := hb.pass_marker (not_mem_path path (c := '*') (by decide))
    have hg := gives_marked hn hp hb hd hl rest
      ((front ++ [' ']).length + (markerOpen ++ path.text ++ markerClose).length)
    have he : front ++ [' '] ++ (markerOpen ++ path.text ++ markerClose ++
        (' ' :: declaration.body ++ rest)) = source := by
      rw [hs, ht]
      simp
    rw [he, ← List.length_append] at hg
    have hrest := declaration.body_pass hm
    rw [ht] at ha
    rw [ht, hr, List.append_assoc, Sheet.markersFrom_append_left (by decide), ← List.length_append,
      List.append_assoc (markerOpen ++ path.text ++ markerClose),
      Sheet.markersFrom_marker (not_mem_path path (c := ']') (by decide)), ← List.length_append,
      Sheet.markersFrom_append_left declaration.slash_not_mem_body, ← List.length_append]
    rw [← List.append_assoc, ← List.append_assoc (front ++ [' '])] at ha
    exact List.Forall₂.cons hg (ha hrest)

/-- The run over the declarations of a rule. -/
theorem gives_declarations {source : Text} {after : List (Option Override)} (hn : selectors ≠ [])
    (hp : ∀ selector ∈ selectors, Sheet.IsPlainSelector selector) (declarations : List Declaration)
    (h : Inside front (Text.join [','] selectors))
    (hl : ∀ declaration ∈ declarations, declaration.HasTextLeaf theme)
    (hs : source = front ++ (declarationsText declarations ++ rest))
    (ha : Inside (front ++ declarationsText declarations) (Text.join [','] selectors) →
      List.Forall₂ (Processor.Gives source theme)
        (markersFrom (front ++ declarationsText declarations).length rest) after) :
    List.Forall₂ (Processor.Gives source theme)
      (markersFrom front.length (declarationsText declarations ++ rest))
      (declarations.flatMap (Declaration.results theme selectors) ++ after) := by
  induction declarations generalizing front with
  | nil =>
    rw [declarationsText, List.flatMap_nil, List.append_nil] at ha
    exact ha h
  | cons declaration declarations ih =>
    have ht : declarationsText (declaration :: declarations) =
        ' ' :: declaration.text ++ declarationsText declarations := List.flatMap_cons
    rw [ht, ← List.append_assoc] at ha
    rw [ht, List.append_assoc] at hs
    rw [ht, List.append_assoc, List.flatMap_cons, List.append_assoc]
    refine gives_declaration hn hp h (hl declaration List.mem_cons_self) hs fun hi => ?_
    exact ih hi (fun d hd => hl d (List.mem_cons_of_mem _ hd)) (by rw [hs, List.append_assoc]) ha

-- ---------------------------------------------------------------------------
-- Rules
-- ---------------------------------------------------------------------------

namespace Rule

variable (rule : Rule)

theorem selectors_ne_nil : rule.selectors ≠ [] := List.cons_ne_nil _ _

theorem selectors_plain : ∀ selector ∈ rule.selectors, Sheet.IsPlainSelector selector := by
  intro selector hs
  obtain ⟨parts, -, rfl⟩ := List.mem_map.mp hs
  exact parts.isPlain

theorem text_eq : rule.text = rule.gap ++ header rule.selectors ++ ['{'] ++
    (declarationsText rule.declarations ++ [' ', '}']) := by
  simp [text, header, declarationsText]

theorem opening_chars : ∀ c ∈ rule.gap ++ header rule.selectors,
    c ≠ '{' ∧ c ≠ '}' ∧ c ≠ ';' ∧ c ≠ '/' ∧ c ≠ '*' := by
  intro c hc
  rcases List.mem_append.mp hc with hc | hc
  · refine ⟨?_, ?_, ?_, ?_, ?_⟩ <;> rintro rfl <;>
      exact absurd (rule.gap_blank _ hc) (by decide)
  · have hh := Sheet.header_chars rule.selectors_plain c hc
    exact ⟨hh.1, hh.2.1, hh.2.2.1, hh.2.2.2.1, hh.2.2.2.2.1⟩

theorem enter (h : Between front) : Inside (front ++ (rule.gap ++ header rule.selectors) ++ ['{'])
    (Text.join [','] rule.selectors) := by
  rw [← Sheet.canonicalName_header rule.gap_blank rule.selectors_ne_nil rule.selectors_plain]
  refine h.enter ?_ ?_ ?_
  · exact Text.occursIn_of_not_mem fun hm => (rule.opening_chars _ hm).2.2.2.1 rfl
  · exact fun hm => (rule.opening_chars _ (List.mem_of_head? hm)).2.2.2.2 rfl
  · exact fun c hc => ⟨(rule.opening_chars c hc).1, (rule.opening_chars c hc).2.1,
      (rule.opening_chars c hc).2.2.1⟩

def results (theme : Theme) (rule : Rule) : List (Option Override) :=
  rule.declarations.flatMap (Declaration.results theme rule.selectors)

end Rule

/-- The run over the rules: a reader between rules is between rules again. -/
theorem gives_rules {source : Text} (rules : List Rule) (h : Between front)
    (hl : HasTextLeaves theme rules) (hs : source = front ++ text rules) :
    List.Forall₂ (Processor.Gives source theme) (markersFrom front.length (text rules))
      (rules.flatMap (Rule.results theme)) := by
  induction rules generalizing front with
  | nil =>
    rw [text, List.flatMap_nil, Sheet.markersFrom_nil, List.flatMap_nil]
    exact List.Forall₂.nil
  | cons rule rules ih =>
    have ht : text (rule :: rules) = rule.gap ++ header rule.selectors ++ ['{'] ++
        (declarationsText rule.declarations ++ ([' ', '}'] ++ text rules)) := by
      rw [text, List.flatMap_cons, rule.text_eq, text]
      simp
    have ho : '/' ∉ rule.gap ++ header rule.selectors ++ ['{'] := by
      intro hm
      rcases List.mem_append.mp hm with hm | hm
      · exact (rule.opening_chars _ hm).2.2.2.1 rfl
      · cases List.mem_singleton.mp hm
    rw [ht, Sheet.markersFrom_append_left ho, ← List.length_append, ← List.append_assoc,
      List.flatMap_cons]
    refine gives_declarations rule.selectors_ne_nil rule.selectors_plain rule.declarations
      (rule.enter h) (hl rule List.mem_cons_self) (by rw [hs, ht]; simp) fun hi => ?_
    rw [Sheet.markersFrom_append_left (by decide), ← List.length_append]
    have hb : Inside (front ++ (rule.gap ++ header rule.selectors ++ ['{']) ++
        declarationsText rule.declarations ++ [' ']) (Text.join [','] rule.selectors) := by
      rw [← List.append_assoc front]
      exact hi.pass_plain (by decide) (by decide)
    refine ih ?_ (fun r hr => hl r (List.mem_cons_of_mem _ hr)) (by rw [hs, ht]; simp)
    simpa using hb.leave

theorem reduceOption_results (theme : Theme) (rule : Rule) :
    (rule.results theme).reduceOption = (rule.resolved theme).map (Resolved.override theme) := by
  rw [Rule.results, Rule.resolved]
  induction rule.declarations with
  | nil => rfl
  | cons declaration declarations ih =>
    rw [List.flatMap_cons, List.reduceOption_append, ih, List.filterMap_cons]
    cases hd : declaration.path with
    | none =>
      simp [Declaration.results, Declaration.resolved?, hd, List.reduceOption]
    | some path =>
      cases hr : declaration.resolved? theme rule.selectors <;>
        simp [Declaration.results, hd, hr, List.reduceOption]

theorem reduceOption_rules (theme : Theme) (rules : List Rule) :
    (rules.flatMap (Rule.results theme)).reduceOption =
      (resolved theme rules).map (Resolved.override theme) := by
  induction rules with
  | nil => rfl
  | cons rule rules ih =>
    rw [List.flatMap_cons, List.reduceOption_append, ih, reduceOption_results, resolved, resolved,
      List.flatMap_cons, List.map_append]

end Retheme.Flat
