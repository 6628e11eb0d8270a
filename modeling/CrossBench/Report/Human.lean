import CrossBench.Decimal.Binary
import CrossBench.Report.Event

/-!
# The report for people

One line a file under a header for each suite, with the messages of the build in front. Times have
two places. This is the only format that shows colours and build messages.
-/

/-!
## Colours

A styled text is the text between a code that switches the style on and one that switches every
style off. Without colours it is the text alone.
-/

namespace CrossBench

/-- The styles of the report. -/
inductive Style where
  | bold
  | dim
  | red
  | green
  | yellow
  | cyan
  deriving DecidableEq

/-- The number that switches a style on. -/
def Style.code : Style → String
  | .bold => "1"
  | .dim => "2"
  | .red => "31"
  | .green => "32"
  | .yellow => "33"
  | .cyan => "36"

/-- The sequence that switches something on a terminal. -/
def escapeSequence (code : String) : String := "\x1b[" ++ code ++ "m"

/-- A text in a style, if there are colours. -/
def Style.paint (style : Style) (colored : Bool) (text : String) : String :=
  if colored then escapeSequence style.code ++ text ++ escapeSequence "0" else text

end CrossBench

namespace CrossBench.Human

/-- A time in milliseconds. -/
def milliseconds (x : Float) : String := Decimal.fixed 2 x ++ "ms"

/-- The line that announces a build. -/
def buildLine (colored : Bool) (gate : Gate) (reason : Staleness) : String :=
  Style.yellow.paint colored
    (gate.tag.text ++ " binary " ++ reason.message ++ ", building with " ++ gate.commandLine ++ "…")

/-- What a skipped build means for the run. -/
def skipConsequence (gate : Gate) : Staleness → String
  | .missing => "." ++ gate.tag.text ++ " benchmarks will be skipped"
  | _ => "using the existing binary"

/-- The lines about the outcome of a build. -/
def outcomeLines (colored : Bool) (gate : Gate) : BuildOutcome → List String
  | .upToDate => []
  | .rebuilt _ => []
  | .skipped reason =>
    [Style.yellow.paint colored
      (gate.tag.text ++ " binary " ++ reason.message ++ ", build skipped; "
        ++ skipConsequence gate reason ++ ".")]
  | .failed _ error =>
    [Style.red.paint colored
      (gate.commandLine ++ " failed, ." ++ gate.tag.text ++ " benchmarks will be skipped."),
      Style.dim.paint colored (error.diagnostics?.getD error.message)]

/-- The line for a run without suites. -/
def noSuitesLine (colored : Bool) (root : Path) : String :=
  Style.yellow.paint colored ("No benchmarks found in " ++ root.toText)

/-- The header of a suite. -/
def suiteHeader (colored : Bool) (name : String) (plan : Plan) : String :=
  Style.bold.paint colored ("▶ " ++ name) ++ "  "
    ++ Style.dim.paint colored
      ("(" ++ toString plan.iterations ++ " iters, " ++ toString plan.warmup ++ " warmup)")

/-- The label in front of the results of a file: its tag, in a column five wide. -/
def tagLabel (colored : Bool) (tag : Tag) : String :=
  Style.dim.paint colored ("." ++ Cell.left ⟨tag.text, 5, none⟩ ' ')

/-- The mark behind the results of a file some of whose runs failed. -/
def failedMark (colored : Bool) (summary : Summary) : Option Nat → String
  | none => ""
  | some 0 => ""
  | some failed =>
    "  " ++ Style.red.paint colored
      ("failed=" ++ toString failed ++ "/" ++ toString summary.samples)

/-- The line for a file. -/
def resultLine (colored : Bool) (result : FileResult) : String :=
  "  " ++ tagLabel colored result.tag ++
  match result.summary with
  | none => "  " ++ Style.dim.paint colored "no data"
  | some s =>
    "  min=" ++ Style.green.paint colored (milliseconds s.min)
      ++ "  med=" ++ Style.cyan.paint colored (milliseconds s.median)
      ++ "  avg=" ++ Style.cyan.paint colored (milliseconds s.mean)
      ++ "  max=" ++ Style.yellow.paint colored (milliseconds s.max)
      ++ "  σ=" ++ Style.dim.paint colored (milliseconds s.stdev)
      ++ failedMark colored s result.failedRuns

/-- The lines behind the results of a suite: a notice if there are none. -/
def suiteNotice (colored : Bool) (suite : SuiteReport) : List String :=
  if suite.results.isEmpty then ["  " ++ Style.red.paint colored "No supported scripts found."]
  else []

/-- The lines for an event. -/
def lines (colored : Bool) : Event → List String
  | .buildStarted gate reason => [buildLine colored gate reason]
  | .buildFinished gate outcome => outcomeLines colored gate outcome
  | .noSuites root => [noSuitesLine colored root]
  | .suiteStarted name plan => ["", suiteHeader colored name plan]
  | .fileMeasured _ _ result => [resultLine colored result]
  | .suiteFinished suite => suiteNotice colored suite
  | .runFinished => ["", Style.bold.paint colored "Done.", ""]

end CrossBench.Human
