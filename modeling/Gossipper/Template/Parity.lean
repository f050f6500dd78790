/-
Module: Gossipper.Template.Parity
Purpose: The strict and the lenient rendering agree: where the strict resolver
  accepts a token, the lenient one writes the same text and drops the same lines,
  and this carries over to lines, texts and the two passes of a message.
Trusted boundary: none
Main exports: resolveToken_agrees, expandTokens_agrees, render_agrees, renderMessage_of_strict
-/
import Gossipper.Template.Resolve

namespace Gossipper.Template

open Go

/-- What a lenient result adds to the line: the text that is written, and whether
the line is dropped. -/
def written (result : Bytes × Bool × Bool) : Bytes × Bool :=
  (if result.2.1 then result.1 else [], result.2.2)

/-- An accepted strict result is what the lenient one writes. -/
def Agrees (strict : Except TokenError (Bytes × Bool)) (lenient : Bytes × Bool × Bool) : Prop :=
  ∀ value, strict = .ok value → written lenient = value

theorem Agrees.ok (value : Bytes) : Agrees (.ok (value, false)) (value, true, false) := by
  rintro _ ⟨⟩
  rfl

theorem Agrees.error {error lenient} :
    Agrees (.error error) lenient := by
  rintro _ ⟨⟩

/-- Two tables with the same names and agreeing results. -/
def TablesAgree (strict : List (List String × Except TokenError (Bytes × Bool)))
    (lenient : List (List String × (Bytes × Bool × Bool))) : Prop :=
  List.Forall₂ (fun s l => s.1 = l.1 ∧ Agrees s.2 l.2) strict lenient

section Resolvers

variable [CaseTables] (env : Environment) (c : Context)

theorem keywords_agree (delta : Int) :
    TablesAgree (keywordsStrict env c delta) (keywords env c delta) := by
  unfold keywordsStrict keywords TablesAgree
  -- One goal for each keyword; a few have a choice inside.
  repeat' constructor
  all_goals first
    | exact .ok _
    | split <;> exact .ok _

theorem resolveLast_agrees (key : Bytes) :
    Agrees (resolveLastStrict env c key) (resolveLast env c key) := by
  unfold resolveLastStrict resolveLast
  dsimp only
  split
  · exact .ok _
  · split
    · exact .ok _
    · split
      · rintro _ ⟨⟩
        rfl
      · exact .ok _

omit [CaseTables] in
theorem resolveOther_agrees (token key base : Bytes) :
    Agrees (resolveOtherStrict c token key base) (resolveOther c key base) := by
  unfold resolveOtherStrict resolveOther
  split
  · -- A variable that is not set is written as nothing in both.
    cases c.vars.lookup (trimPrefix base [dollar]) with
    | none =>
      rintro _ ⟨⟩
      rfl
    | some v => exact .ok v
  · cases c.extraKeywords.lookup key with
    | none => exact .error
    | some v => exact .ok v

theorem resolveToken_agrees (token : Bytes) :
    Agrees (resolveTokenStrict env c token) (resolveToken env c token) := by
  unfold resolveTokenStrict resolveToken
  dsimp only
  split
  · cases renderFileToken env (tokenKey token) c.basePath with
    | none => exact .error
    | some value => exact .ok value
  · split
    · cases c.field env (tokenKey token) with
      | none => exact .error
      | some value => exact .ok value
    · rename_i notField
      rw [show c.field env (tokenKey token) = none by
        simp_all [Context.field, renderFieldTokenWithVariables]]
      split
      · cases renderFillToken env (tokenKey token) c.vars with
        | none => exact .error
        | some value => exact .ok value
      · rename_i notFill
        rw [show renderFillToken env (tokenKey token) c.vars = none by simp_all [renderFillToken]]
        dsimp only
        split
        · exact resolveLast_agrees env c _
        · exact switch_rel ((keywords_agree env c _).imp fun _ _ same => ⟨same.1, fun _ => same.2⟩)
            (resolveOther_agrees c token _ _)

end Resolvers

/-! ### From tokens to messages -/

theorem expandTokens_agrees {strict : Bytes → Except TokenError (Bytes × Bool)}
    {lenient : Bytes → Bytes × Bool × Bool}
    (agrees : ∀ token, Agrees (strict token) (lenient token)) (accepted : expandTokensStrict strict parts = .ok value) :
    expandTokens lenient parts = value := by
  revert accepted
  fun_induction expandTokensStrict strict parts generalizing value <;> rintro ⟨⟩
  case case1 => rfl
  case case3 b rest text drop restAccepted ih => simp [expandTokens, ih restAccepted]
  case case6 token rest rep drop tokenAccepted text dropLine restAccepted ih =>
    have same := agrees token (rep, drop) tokenAccepted
    simp only [written, Prod.mk.injEq] at same
    simp [expandTokens, ih restAccepted, same.1, same.2]

section Rendering

variable [CaseTables]

variable {env : Environment} {c : Context}

theorem renderLine_agrees (accepted : renderLineStrict env c line = .ok value) :
    renderLine env c line = value := by
  unfold renderLineStrict at accepted
  split at accepted
  · cases accepted
  · rename_i expanded lineAccepted
    cases accepted
    rw [renderLine, expandTokens_agrees (resolveToken_agrees env c) lineAccepted]

theorem renderLines_agrees (accepted : renderLinesStrict env c lines = .ok values) :
    lines.filterMap (renderLine env c) = values := by
  revert accepted
  fun_induction renderLinesStrict env c lines generalizing values <;> rintro ⟨⟩
  case case1 => rfl
  case case4 line rest value lineAccepted more restAccepted ih =>
    rw [List.filterMap_cons, renderLine_agrees lineAccepted, ih restAccepted]
    cases value <;> rfl

theorem render_agrees (accepted : renderStrict env c raw = .ok text) : render env c raw = text := by
  unfold renderStrict at accepted
  split at accepted
  · cases accepted
  · rename_i values linesAccepted
    cases accepted
    rw [render, renderLines_agrees linesAccepted]

/-- Where `RenderMessageStrict` returns a text, `RenderMessage` returns the same one if its passes
read the same. -/
theorem renderMessage_of_strict (env : Passes) (c : Context) (raw text : Bytes)
    (accepted : renderMessageStrict env raw c = .ok text) : renderMessage env raw c = text := by
  unfold renderMessageStrict at accepted
  unfold renderMessage
  by_cases hasLen : hasLenToken raw = true
  · simp only [hasLen, Bool.not_true, Bool.false_eq_true, if_false] at accepted ⊢
    split at accepted
    · cases accepted
    · rename_i first firstAccepted
      rw [render_agrees firstAccepted]
      exact render_agrees accepted
  · simp only [hasLen, Bool.not_false, if_true] at accepted ⊢
    exact render_agrees accepted

end Rendering

section Concrete

attribute [local instance] CaseTables.asciiOnly

/-- A template with a line that is left out, an unset variable and a body. -/
def optionsTemplate : Bytes :=
  ascii "OPTIONS [service]\r\nVia: [last_Via]\r\nX: [$x]\r\nContent-Length: [len]\r\n\r\n[cseq+1]"

/-- Both renderings of the template. -/
theorem optionsTemplate_rendered :
    renderMessage ⟨noFiles, noFiles⟩ optionsTemplate { Context.zero with service := ascii "a" } =
      ascii "OPTIONS a\r\nX: \r\nContent-Length: 3\r\n\r\n1\r\n" :=
  renderMessage_of_strict _ _ _ _ (by decide +kernel)

end Concrete

end Gossipper.Template
