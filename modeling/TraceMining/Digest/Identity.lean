import TraceMining.Digest.Sha1
import TraceMining.Text.Quoted

/-
  This file defines identities.  An identity derived from a
  name is the digest of a fixed key and the name, marked as
  version five; an identity given out by counting is the
  count in base sixteen.

  Key definitions include:
    * `Identity.grouped`
    * `Identity.named`
    * `Identity.session`
    * `Identity.event`
    * `Identity.model`
-/

------------------------------------------------------------
-- Derived Identities
------------------------------------------------------------

namespace TraceMining

namespace Identity

/- Thirty-two digits in groups of 8, 4, 4, 4 and 12. -/
def grouped
    (ds : List Char) : String :=
  let part (n m : Nat) : String :=
    String.ofList ((ds.drop n).take m)
  "-".intercalate
    [part 0 8, part 8 4, part 12 4, part 16 4, part 20 12]

/- The key under which pattern names are digested. -/
def patternKey : List UInt8 :=
  Sha1.bytes 16 0x6F1C2D3E8A4B4C5D9E6F7A8B9C0D1E2F

/- Mark a digest: version five, and the usual variant. -/
def marked
    (bytes : List UInt8) : List UInt8 :=
  (bytes.take 16).zipIdx.map fun (b, i) =>
    if i = 6 then (b &&& 0x0F) ||| 0x50
    else if i = 8 then (b &&& 0x3F) ||| 0x80
    else b

/- The identity of a name under a key. -/
def named
    (key : List UInt8)
    (name : String) : String :=
  let bytes := marked (Sha1.digest (key ++ name.toUTF8.toList))
  grouped (bytes.flatMap fun b => Text.hex 2 b.toNat)

end Identity

end TraceMining

------------------------------------------------------------
-- Counted Identities
------------------------------------------------------------

namespace TraceMining

namespace Identity

/- The identity of the session generated as number `k`. -/
def session
    (k : Nat) : String :=
  "session_" ++ String.ofList (Text.hex 12 k)

/- The identity of the event generated as number `k`. -/
def event
    (k : Nat) : String :=
  "evt_" ++ String.ofList (Text.hex 32 k)

/- The identity of the model assembled as number `k`. -/
def model
    (k : Nat) : String :=
  grouped (Text.hex 32 k)

end Identity

end TraceMining
