import DeviceBroker.Filter.Directive
import DeviceBroker.LogRecord

/-!
# `Filter` — which records are written

A filter is a list of directives, separated by commas. Of the directives that concern a record the most
specific one decides, alone: the one with the longest target, of those the one that names most fields,
and of those the one whose fields come last in the alphabet. A record that no directive concerns is not
written.

Of two directives about the same target and the same fields the later one counts.

## Contents

* `Filter`, `Filter.read` — a filter and its text.
* `Rule`, `Rule.concerns` — a directive about records.
* `Filter.allows` — whether a record is written.
-/

namespace DeviceBroker

namespace Filter

/-- A directive about records: those of targets with this beginning that have all these fields. -/
structure Rule where
  target : Option String
  fields : List String
  verbosity : Verbosity
  deriving Repr, DecidableEq

namespace Rule

/-- The rule of a directive. -/
def ofDirective (directive : Directive) : Rule where
  target := directive.target
  fields := directive.fields.map (·.1)
  verbosity := directive.verbosity

/-- The field that holds a record's message. -/
def messageField : String := "message"

/-- Whether a rule concerns a record. -/
def concerns (rule : Rule) (record : LogRecord) : Bool :=
  (match rule.target with
    | none => true
    | some target => target.toList.isPrefixOf record.target.toList) &&
  rule.fields.all fun field => field == messageField || record.fields.any (·.1 == field)

/-- How specific a rule is: the length of its target, one more than without a target, and the number of
    its fields. -/
def weight (rule : Rule) : Nat × Nat :=
  (match rule.target with
    | none => 0
    | some target => target.utf8ByteSize + 1, rule.fields.length)

/-- Whether a rule is more specific than another. -/
def outweighs (a b : Rule) : Bool :=
  if a.weight.1 ≠ b.weight.1 then b.weight.1 < a.weight.1
  else if a.weight.2 ≠ b.weight.2 then b.weight.2 < a.weight.2
  else b.fields < a.fields

end Rule

end Filter

/-- A log filter. -/
structure Filter where
  /-- What decides about records, in the order in which it was written. -/
  rules : List Filter.Rule
  deriving Repr, DecidableEq

namespace Filter

/-- The pieces of a text between commas, empty ones left out. -/
def pieces (text : String) : List String :=
  ((text.toList.splitOnP (· == ',')).filter (!·.isEmpty)).map String.ofList

/-- The filter of some directives. Those that have to do with fields come last. -/
def ofDirectives (directives : List Directive) : Filter where
  rules :=
    (directives.filter (!·.isDynamic) ++ directives.filter fun d => d.isDynamic && d.isStatic).map
      Rule.ofDirective

/-- **The filter of a text.** The first piece that is no directive is what is wrong with it. -/
def read (text : String) : Except DirectiveError Filter :=
  ((pieces text).mapM Directive.read).map ofDirectives

/-- The rule that decides about a record: the most specific one, and the latest of those about the same
    target and fields. -/
def decisive? (filter : Filter) (record : LogRecord) : Option Rule :=
  (filter.rules.filter (·.concerns record)).foldl
    (fun best rule =>
      match best with
      | none => some rule
      | some best => if best.outweighs rule then some best else some rule)
    none

/-- **Whether a record is written.** -/
def allows (filter : Filter) (record : LogRecord) : Bool :=
  match filter.decisive? record with
  | none => false
  | some rule => record.level.verbosity ≤ rule.verbosity

end Filter

end DeviceBroker
