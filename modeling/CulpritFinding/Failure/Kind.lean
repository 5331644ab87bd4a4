import CulpritFinding.Build

namespace CulpritFinding

def asciiLower (s : String) : String := String.ofList (s.toList.map Char.toLower)

inductive FailureKind
  | compile
  | test
  deriving DecidableEq

namespace FailureKind

def text : FailureKind → String
  | compile => "compile"
  | test => "test"

def name : FailureKind → String
  | compile => "COMPILE"
  | test => "TEST"

def all : List FailureKind := [compile, test]

def parse? (s : String) : Option FailureKind := Format.named? all text (asciiLower s)

def format : Format FailureKind := .enum all name

end FailureKind

structure FailureKey where
  build : BuildKey
  kind : FailureKind
  deriving DecidableEq

namespace FailureKey

def text (k : FailureKey) : String := k.build.text ++ "#" ++ k.kind.text

def format : Format FailureKey := .record <|
  Shape.pure FailureKey.mk
    |>.required "build" BuildKey.format (·.build)
    |>.required "kind" FailureKind.format (·.kind)

end FailureKey

end CulpritFinding
