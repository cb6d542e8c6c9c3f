import Retheme.Proofs.Expression.Pure
import Retheme.Proofs.Expression.RoundTrip

/-!
# What an expression mentions

An expression mentions the nodes of its parse, those in calls of unknown
functions included. Evaluation comes to no function that is not mentioned, so an
expression that mentions built-in functions only changes nothing and reports.
-/

namespace Retheme

inductive Node.StandsIn (node : Node) : Node → Prop
  | here : StandsIn node node
  | inside {name text : Text} {args : List Node} {arg : Node} (hm : arg ∈ args)
      (h : StandsIn node arg) : StandsIn node (.call name args text)

namespace Expression

variable {functions : Registry} {expression name : Text} {args : List Node} {node : Node}

/-- A node stands in the parse of an expression. What is malformed mentions nothing. -/
def Mentions (expression : Text) (node : Node) : Prop :=
  ∃ parsed, parse expression = .ok parsed ∧ node.StandsIn parsed.toNode

theorem Reaches.exists_standsIn {function : Function} {text : Text}
    (h : Reaches functions function text node) :
    ∃ name args, Entries.get? name functions = some function ∧
      (Node.call name args text).StandsIn node := by
  induction h with
  | here hn => exact ⟨_, _, hn, .here⟩
  | inside _ hm _ ih =>
    obtain ⟨name, args, hn, hs⟩ := ih
    exact ⟨name, args, hn, .inside hm hs⟩

def MentionsBuiltins (functions : Registry) (expression : Text) : Prop :=
  ∀ name args text, Mentions expression (.call name args text) →
    ∀ function, Entries.get? name functions = some function → ∃ own, function = .builtin own

theorem MentionsBuiltins.exists_led_eq {site : Site} (h : MentionsBuiltins functions site.expression)
    (work : Workspace) : ∃ log, (led functions site work).2 = { work with log } := by
  have hb : ∀ call, .apply call ∈ traceOf functions site work →
      ∃ own, call.function = .builtin own := by
    intro call hm
    obtain ⟨name, args, text, inner, hp, -, hr⟩ := apply_mem_traceOf hm
    obtain ⟨called, given, hn, hs⟩ := hr.exists_standsIn
    exact h called given inner ⟨_, hp, hs⟩ _ hn
  obtain ⟨log, hl⟩ := exists_state_led functions site work
  obtain ⟨_, ht⟩ := @exists_through_eq work _ hb
  exact ⟨log, by rw [hl, ht]⟩

theorem parse_url : parse "url(demo.fg)" =
    .ok (.call "url" [.path ["demo", "fg"] "demo.fg"] "url(demo.fg)") := by
  have hp : parse "url(demo.fg)" = .ok (.call "url" [leaf "demo.fg"] "url(demo.fg)") :=
    @parse_leaves _ _ "demo.fg" ["demo.fg"] (by decide +kernel) (by decide +kernel)
      (by decide +kernel)
  have hl : leaf "demo.fg" = .path ["demo", "fg"] "demo.fg" := by
    have hv : variableName? "demo.fg" = none := rfl
    have hd : isPath "demo.fg" = true := by decide +kernel
    rw [leaf, hv]
    exact if_pos hd
  rw [hp, hl]

theorem mentions_url (h : Mentions "url(demo.fg)" node) :
    node = .call "url" [.path ["demo", "fg"] "demo.fg"] "url(demo.fg)" ∨
      node = .path ["demo", "fg"] "demo.fg" := by
  obtain ⟨parsed, he, hs⟩ := h
  obtain rfl := Except.ok.inj (parse_url.symm.trans he)
  cases hs with
  | here => exact .inl rfl
  | inside hm hs =>
    obtain rfl := List.mem_singleton.mp hm
    cases hs
    exact .inr rfl

end Expression

end Retheme
