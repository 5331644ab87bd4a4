import CulpritFinding.Text.Blank
import CulpritFinding.Text.Digit
import CulpritFinding.Text.Lines
import CulpritFinding.Text.Pattern

namespace CulpritFinding

namespace FlakeName

open Pattern

/-- A platform at the end of the name of a step. The leftmost one takes all blanks before it, so
that it never starts after a blank. -/
def platformSuffix : Pattern :=
  inOrder [.notAfter isBlank, oneOrMore (.one isBlank), text "on", oneOrMore (.one isBlank),
    .one fun c => !isBlank c, .many (.one (· != '\n')), .atEnd]

def patchSuffix : Pattern :=
  inOrder [.notAfter isBlank, .many (.one isBlank), text "(",
    .many (.one fun c => c != '(' && c != ')'), text "patch)", .many (.one isBlank), .atEnd]

def parameterSuffix : Pattern :=
  inOrder [text "/", oneOrMore (.one isDecimalDigit), .atEnd]

def instantiation : Pattern :=
  inOrder [.atStart, oneOrMore (.one isWord), text "/",
    .group 1 (.seq (oneOrMore (.one isWord)) (text "."))]

def casePrefixes : Pattern :=
  .seq .atStart (oneOrMore (anyText ["PRE_", "MANUAL_", "DISABLED_", "FLAKY_"]))

def ofStep (step : List Char) : List Char :=
  trim (patchSuffix.removeFirst (platformSuffix.removeFirst step))

def ofTest (test : List Char) : List Char :=
  let plain := instantiation.replaceFirst (fun m => (m.group? 1).getD [])
    (parameterSuffix.removeFirst test)
  match splitAtLast? '.' plain with
  | some (suite, case) => suite ++ '.' :: casePrefixes.removeFirst case
  | none => casePrefixes.removeFirst plain

def stepName (step : String) : String := String.ofList (ofStep step.toList)

def testName (test : String) : String := String.ofList (ofTest test.toList)

def key (step test : String) : String := stepName step ++ "::" ++ testName test

end FlakeName

end CulpritFinding
