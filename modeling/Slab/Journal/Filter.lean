import Slab.Journal
import Slab.Pattern.Meaning

/-!
# Filtering a journal

A filter is a list of directives, each with the least severe rank it lets through and optionally
the front of the topics it is about. Of the directives that are about a topic, the one that names
most of it decides. Filters are written as `info`, `slab=debug` or several of these with commas,
and optionally a slash with a pattern that remarks must match. What cannot be read is passed over
with a complaint.
-/

namespace Slab

/-- What a filter says about some topics. -/
structure Directive where
  /-- What the topics start with; without it, the directive is about every topic. -/
  topic : Option (List Char) := none
  /-- The greatest rank that is let through. -/
  rank : Nat
deriving DecidableEq, Repr

namespace Directive

/-- The directive is about a topic. -/
def isAbout (directive : Directive) (topic : List Char) : Bool :=
  directive.topic.all (·.isPrefixOf topic)

/-- How much of a topic the directive names. -/
def reach (directive : Directive) : Nat :=
  (directive.topic.getD []).length

/-- Some directives with one more, which takes the place of one with the same topic. -/
def put : List Directive → Directive → List Directive
  | [], directive => [directive]
  | first :: rest, directive =>
    if first.topic = directive.topic then directive :: rest else first :: put rest directive

/-- Of two directives about a topic, the one that names more of it; of two that name as much, the
later one. -/
def closer (current : Option Directive) (next : Directive) : Option Directive :=
  match current with
  | some directive => if directive.reach ≤ next.reach then some next else some directive
  | none => some next

end Directive

/-- A choice among the remarks of a journal. -/
structure JournalFilter where
  /-- The directives. -/
  directives : List Directive
  /-- What must occur in the sentence of a remark. -/
  pattern : Option Pattern := none
deriving DecidableEq, Repr

/-- What can be wrong with the text of a filter. -/
inductive FilterFault
  /-- There is more than one slash. -/
  | manySlashes (text : List Char)
  /-- A directive has more than one equals sign. -/
  | badDirective (text : List Char)
  /-- There is no such severity. -/
  | badSeverity (name : List Char)
  /-- The pattern cannot be used. -/
  | badPattern (text : List Char) (flaw : Pattern.Flaw)
deriving DecidableEq, Repr

namespace FilterFault

/-- The sentence that reports a fault. -/
def message : FilterFault → String
  | .manySlashes text =>
    "invalid logging spec \x27" ++ String.ofList text ++ "\x27 (too many \x27/\x27s)"
  | .badDirective text => "invalid logging spec \x27" ++ String.ofList text ++ "\x27"
  | .badSeverity name => "invalid logging spec \x27" ++ String.ofList name ++ "\x27"
  | .badPattern text flaw => "invalid regex filter - " ++ flaw.report text

/-- The complaint about a fault. -/
def complaint (fault : FilterFault) : String :=
  "warning: " ++ fault.message ++ ", ignoring it"

end FilterFault

namespace JournalFilter

/-- The directive that decides about a topic. -/
def deciding? (filter : JournalFilter) (topic : List Char) : Option Directive :=
  (filter.directives.filter (·.isAbout topic)).foldl Directive.closer none

/-- The filter lets a remark through. -/
def admits (filter : JournalFilter) (remark : Remark) : Bool :=
  match filter.deciding? remark.topic.toList with
  | some directive =>
    remark.severity.rank ≤ directive.rank &&
      filter.pattern.all (·.occursIn remark.message.toList)
  | none => false

/-! ### Reading a filter -/

/-- The rank that a severity name of either case lets through; `off` lets nothing through. -/
def rankOfName? (name : List Char) : Option Nat :=
  match String.ofList (name.map Char.toLower) with
  | "off" => some 0
  | "error" => some Severity.error.rank
  | "warn" => some Severity.warn.rank
  | "info" => some Severity.info.rank
  | "debug" => some Severity.debug.rank
  | "trace" => some Severity.trace.rank
  | _ => none

/-- The directive that a text denotes. A topic alone lets all through. -/
def readDirective (text : List Char) : Except FilterFault Directive :=
  match text.splitOn '=' with
  | [name] =>
    match rankOfName? name with
    | some rank => .ok { rank }
    | none => .ok { topic := some name, rank := Severity.trace.rank }
  | [name, level] =>
    if trim level = [] then .ok { topic := some name, rank := Severity.trace.rank }
    else
      match rankOfName? (trim level) with
      | some rank => .ok { topic := some name, rank }
      | none => .error (.badSeverity (trim level))
  | _ => .error (.badDirective text)

/-- The directives among some texts, and what is wrong with the others. -/
def readDirectives (texts : List (List Char)) : List Directive × List FilterFault :=
  texts.foldl (fun (directives, faults) text =>
    match readDirective text with
    | .ok directive => (Directive.put directives directive, faults)
    | .error fault => (directives, faults ++ [fault])) ([], [])

/-- The pattern that a text denotes, or what is wrong with it. -/
def readPattern (text : List Char) : Option Pattern × List FilterFault :=
  match Pattern.ofChars text with
  | .ok pattern => (some pattern, [])
  | .error flaw => (none, [.badPattern text flaw])

/-- The filter with some directives. Without any, only errors are let through. -/
def ofDirectives (directives : List Directive) (pattern : Option Pattern) : JournalFilter :=
  ⟨if directives = [] then [{ rank := Severity.error.rank }] else directives, pattern⟩

/-- The filter that a text denotes, and what is wrong with the text. -/
def ofChars (text : List Char) : JournalFilter × List FilterFault :=
  match text.splitOn '/' with
  | directives :: patterns =>
    if patterns.length ≤ 1 then
      let texts := ((directives.splitOn ',').map trim).filter (· ≠ [])
      let (directives, faults) := readDirectives texts
      let (pattern, more) := match patterns with
        | pattern :: _ => readPattern pattern
        | [] => (none, [])
      (ofDirectives directives pattern, faults ++ more)
    else (ofDirectives [] none, [.manySlashes text])
  | [] => (ofDirectives [] none, [])

/-- The filter for a setting that may be absent, and what is wrong with the setting. Without a
setting, warnings and errors are let through. -/
def ofSetting : Option String → JournalFilter × List FilterFault
  | some text => ofChars text.toList
  | none => (⟨[{ rank := Severity.warn.rank }], none⟩, [])

end JournalFilter

end Slab
