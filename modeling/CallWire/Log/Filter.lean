import CallWire.Log.Rule
/-!
This module contains log filters. Of the rules that concern a line the most specific one decides
whether the line is shown.
-/

namespace CallWire

structure LogFilter where
  rules : List LogRule
  deriving DecidableEq, Repr, Inhabited

namespace LogFilter

/-- The rule that decides about a line. Of two that are equally specific it is the later one. -/
def rule? (f : LogFilter) (l : LogLine) : Option LogRule :=
  (f.rules.filter (·.concerns l)).foldl (fun best r =>
    match best with
    | none => some r
    | some b => if r.precedes b then some r else some b) none

def levelOf (f : LogFilter) (l : LogLine) : LogLevel := ((f.rule? l).map LogRule.level).getD .off

def shows (f : LogFilter) (l : LogLine) : Bool := l.level.rank ≤ (f.levelOf l).rank

def ofRules : List LogRule → LogFilter
  | [] => ⟨[{ level := .error }]⟩
  | rules => ⟨rules⟩

def ofText? (s : String) : Option LogFilter :=
  (((s.splitOn ",").filter (· ≠ "")).mapM LogRule.ofText?).map ofRules

def standard (traced : Bool) : LogFilter :=
  ⟨{ level := .warn } :: if traced then [{ target := some "surrealrpc::wire" }] else []⟩

def ofEnvironment (env : Environment) (traced : Bool) : LogFilter :=
  ((env.text? "RUST_LOG").bind ofText?).getD (standard traced)

end LogFilter
end CallWire
