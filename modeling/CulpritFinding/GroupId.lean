import CulpritFinding.Text.Hex

namespace CulpritFinding

structure GroupId where
  bits : BitVec 128
  deriving DecidableEq

namespace GroupId

def ofRandom (bytes : List Nat) : GroupId :=
  let mark (i byte : Nat) : Nat :=
    if i = 6 then byte % 16 + 64 else if i = 8 then byte % 64 + 128 else byte
  ⟨BitVec.ofNat 128 ((bytes.mapIdx mark).foldl (fun n byte => n * 256 + byte) 0)⟩

def chars (id : GroupId) : List Char :=
  let ds := hexDigits 32 id.bits.toNat
  ds.take 8 ++ '-' :: (ds.drop 8).take 4 ++ '-' :: (ds.drop 12).take 4
    ++ '-' :: (ds.drop 16).take 4 ++ '-' :: ds.drop 20

def text (id : GroupId) : String := String.ofList id.chars

def joinParts? (cs : List Char) : Option (List Char) :=
  if cs.length = 36 ∧ [8, 13, 18, 23].all (fun i => cs[i]? = some '-') then
    some (cs.take 8 ++ (cs.drop 9).take 4 ++ (cs.drop 14).take 4 ++ (cs.drop 19).take 4
      ++ cs.drop 24)
  else none

def resourcePrefix : List Char := "urn:uuid:".toList

def afterResourcePrefix? (cs : List Char) : Option (List Char) :=
  if (cs.take resourcePrefix.length).map Char.toLower = resourcePrefix then
    some (cs.drop resourcePrefix.length)
  else none

def parseChars? (cs : List Char) : Option GroupId :=
  let plain := match cs with
    | '{' :: inner => if inner.getLast? = some '}' then joinParts? inner.dropLast else none
    | _ =>
      if cs.length = 32 then some cs
      else joinParts? ((afterResourcePrefix? cs).getD cs)
  do
    let n ← hexNumber? (← plain)
    return ⟨BitVec.ofNat 128 n⟩

def parse? (s : String) : Option GroupId := parseChars? s.toList

end GroupId

end CulpritFinding
