import DungeonForge.Proofs.Manifest.Build
import DungeonForge.Run.Arguments

/-!
The flag that skips the rules, given before all other words. No word but the same flag again looks
at it, so reading goes on as without it; only the check of the whole command line, at the end, finds
that it excludes a report and strictness.
-/

namespace DungeonForge

namespace Given

def skipping (g : Given) : Given :=
  { g with skipRules := true }

theorem setOpt_skipping (g : Given) (o : Opt) (value : String) :
    g.skipping.setOpt o value = (g.setOpt o value).map skipping := by
  have same : g.skipping.has o = g.has o := by cases o <;> rfl
  unfold setOpt
  rw [same]
  by_cases already : g.has o = true
  · rw [if_pos already, if_pos already]
    rfl
  · rw [if_neg already, if_neg already]
    cases o with
    | indent => cases readIndent value <;> rfl
    | config | output | report => cases requirePath value <;> rfl

theorem setFlag_skipping (g : Given) {f : Flag} (other : f ≠ .skipRules) :
    g.skipping.setFlag f = (g.setFlag f).map skipping := by
  obtain ⟨manifest, config, output, pretty, indent, strict, report, skipRules, verbosity⟩ := g
  cases f with
  | skipRules => exact absurd rfl other
  | pretty => cases pretty <;> rfl
  | strict => cases strict <;> rfl
  | verbose | help | version => rfl

theorem skipRules_of_setFlag {g g' : Given} (given : g.setFlag .skipRules = .ok g') :
    g'.skipRules = true := by
  simp only [setFlag] at given
  split at given
  · cases given
  · cases given
    rfl

theorem skipRules_of_finish {g : Given} {a : Arguments} (finished : g.finish = .ok a) :
    a.skipRules = g.skipRules := by
  unfold finish at finished
  split at finished
  · cases finished
  · cases named : g.manifest with
    | none =>
      rw [named] at finished
      cases finished
    | some manifest =>
      rw [named] at finished
      cases finished
      rfl

theorem finish_skipping {g : Given} {a : Arguments} (finished : g.finish = .ok a)
    (strict : a.strict = false) (report : a.report = none) :
    g.skipping.finish = .ok { a with skipRules := true } := by
  unfold finish at finished ⊢
  split at finished
  · cases finished
  · simp only [skipping]
    cases named : g.manifest with
    | none =>
      rw [named] at finished
      cases finished
    | some manifest =>
      rw [named] at finished
      cases finished
      simp only at strict report
      simp [strict, report]

end Given

namespace Parsing

def skipping (p : Parsing) : Parsing :=
  { p with given := p.given.skipping }

theorem skipping_of_skipRules {p : Parsing} (given : p.given.skipRules = true) :
    p.skipping = p := by
  cases p with
  | mk g pending named trailing =>
    cases g
    cases given
    rfl

theorem bind_skipping {x : Except UsageError Parsing} {f : Parsing → Except UsageError Parsing}
    (blind : ∀ p, f p.skipping = (f p).map skipping) :
    (x.map skipping >>= f) = (x >>= f).map skipping := by
  cases x with
  | error e => rfl
  | ok p => exact blind p

theorem settle_skipping (p : Parsing) : p.skipping.settle = p.settle.map skipping := by
  obtain ⟨g, pending, named, trailing⟩ := p
  cases pending with
  | none => rfl
  | some waiting =>
    cases waiting with
    | manifest path =>
      simp only [settle, skipping]
      cases Given.requirePath path <;> rfl
    | opt o value =>
      cases value with
      | none => rfl
      | some value =>
        simp only [settle, skipping, Given.setOpt_skipping]
        cases g.setOpt o value <;> rfl

theorem addFlag_skipping (p : Parsing) {f : Flag} (other : f ≠ .skipRules) :
    p.skipping.addFlag f = (p.addFlag f).map skipping := by
  unfold addFlag
  rw [settle_skipping]
  refine bind_skipping fun q => ?_
  simp only [skipping, Given.setFlag_skipping _ other]
  cases q.given.setFlag f <;> rfl

theorem skipRules_of_addFlag {p q : Parsing} (given : p.addFlag .skipRules = .ok q) :
    q.given.skipRules = true := by
  unfold addFlag at given
  cases settled : p.settle with
  | error e =>
    rw [settled] at given
    cases given
  | ok p' =>
    rw [settled] at given
    cases set : p'.given.setFlag .skipRules with
    | error e =>
      simp only [bind, Except.bind, set] at given
      cases given
    | ok g =>
      simp only [bind, Except.bind, set] at given
      cases given
      exact Given.skipRules_of_setFlag set

theorem addOpt_skipping (p : Parsing) (o : Opt) (attached : Option String) :
    p.skipping.addOpt o attached = (p.addOpt o attached).map skipping := by
  unfold addOpt
  rw [settle_skipping]
  refine bind_skipping fun q => ?_
  cases attached with
  | none => rfl
  | some value =>
    simp only [skipping, Given.setOpt_skipping]
    cases q.given.setOpt o value <;> rfl

theorem addPath_skipping (p : Parsing) (path : String) :
    p.skipping.addPath path = (p.addPath path).map skipping := by
  have same : p.skipping.named = p.named := rfl
  unfold addPath
  rw [same, settle_skipping]
  by_cases named : p.named = true
  · rw [if_pos named, if_pos named]
    rfl
  · rw [if_neg named, if_neg named]
    exact bind_skipping fun q => rfl

theorem addWord_skipping (p : Parsing) (w : String) :
    p.skipping.addWord w = (p.addWord w).map skipping := by
  unfold addWord
  have same : p.skipping.pending = p.pending := rfl
  rw [same]
  split
  · rfl
  · exact addPath_skipping p w

theorem addLetters_skipping (p : Parsing) (cs : List Char) :
    p.skipping.addLetters cs = (p.addLetters cs).map skipping := by
  induction cs generalizing p with
  | nil => rfl
  | cons c cs ih =>
    unfold addLetters
    cases switch : Switch.ofLetter? c with
    | none => rfl
    | some s =>
      cases s with
      | opt o => exact addOpt_skipping p o _
      | flag f =>
        have other : f ≠ .skipRules := by
          rintro rfl
          unfold Switch.ofLetter? at switch
          split at switch <;> cases switch
        simp only
        rw [addFlag_skipping p other]
        exact bind_skipping ih

theorem addLong_skipping (p : Parsing) (body : List Char) :
    p.skipping.addLong body = (p.addLong body).map skipping ∨
      ∀ q, p.addLong body = .ok q → q.given.skipRules = true := by
  unfold addLong
  dsimp only
  cases Switch.ofLongName? (String.ofList (body.takeWhile (· ≠ '='))) with
  | none => exact .inl rfl
  | some s =>
    cases s with
    | opt o => exact .inl (addOpt_skipping p o _)
    | flag f =>
      cases body.dropWhile (· ≠ '=') with
      | cons _ value => exact .inl rfl
      | nil =>
        by_cases flag : f = .skipRules
        · subst flag
          exact .inr fun q => skipRules_of_addFlag
        · exact .inl (addFlag_skipping p flag)

theorem step_skipping (p : Parsing) (w : String) :
    p.skipping.step w = (p.step w).map skipping ∨
      ∀ q, p.step w = .ok q → q.given.skipRules = true := by
  have same : p.skipping.trailing = p.trailing := rfl
  unfold step
  rw [same]
  split
  · exact .inl (addPath_skipping p w)
  · split
    · exact .inl rfl
    · exact addLong_skipping p _
    · exact .inl (addLetters_skipping p _)
    · exact .inl (addWord_skipping p w)

theorem skipRules_of_fixed {x : Except UsageError Parsing} {q : Parsing}
    (blind : x = x.map skipping) (read : x = .ok q) : q.given.skipRules = true := by
  rw [read] at blind
  rw [Except.ok.inj blind]
  rfl

theorem foldlM_step_skipping (words : List String) (p : Parsing) :
    words.foldlM step p.skipping = (words.foldlM step p).map skipping ∨
      ∀ q, words.foldlM step p = .ok q → q.given.skipRules = true := by
  induction words generalizing p with
  | nil => exact .inl rfl
  | cons w words ih =>
    rw [List.foldlM_cons, List.foldlM_cons]
    cases stepped : p.step w with
    | error e => exact .inr fun q read => by cases read
    | ok p' =>
      obtain blind | given := step_skipping p w
      · rw [blind, stepped]
        exact ih p'
      · -- the flag has been given, so it changes nothing to give it first
        have already := skipping_of_skipRules (given p' stepped)
        obtain blind | given' := ih p'
        · rw [already] at blind
          exact .inr fun q read => skipRules_of_fixed blind read
        · exact .inr given'

end Parsing

namespace Arguments

/-- A command line that asks neither for strictness nor for a report can ask, besides, that the
rules be skipped. -/
theorem parse_skipping {words : List String} {a : Arguments} (parsed : parse words = .ok a)
    (strict : a.strict = false) (report : a.report = none) (judged : a.skipRules = false) :
    parse ("--skip-rules" :: words) = .ok { a with skipRules := true } := by
  obtain ⟨q, read, finished⟩ := bind_eq_ok_iff.1 parsed
  obtain ⟨r, settled, finished⟩ := bind_eq_ok_iff.1 finished
  have off : r.given.skipRules = false := (Given.skipRules_of_finish finished).symm.trans judged
  have start : Parsing.start.step "--skip-rules" = .ok Parsing.start.skipping := rfl
  have blind : words.foldlM Parsing.step Parsing.start.skipping = .ok q.skipping := by
    obtain blind | given := Parsing.foldlM_step_skipping words .start
    · rw [blind, read]
      rfl
    · have already := Parsing.settle_skipping q
      rw [Parsing.skipping_of_skipRules (given q read)] at already
      cases off.symm.trans (Parsing.skipRules_of_fixed already settled)
  unfold parse Parsing.finish
  rw [List.foldlM_cons, start]
  change (words.foldlM Parsing.step Parsing.start.skipping >>= _) = _
  rw [blind]
  change (q.skipping.settle >>= _) = _
  rw [Parsing.settle_skipping, settled]
  exact Given.finish_skipping finished strict report

end Arguments

end DungeonForge
