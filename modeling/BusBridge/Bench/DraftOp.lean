import BusBridge.Wire.Cursor
/-!
# Scripted writing

The operations of a draft as data, so that what writes a payload can be given as a list.
-/

namespace BusBridge

inductive DraftOp where
  | put (bytes : Bytes)
  /-- a payload as a whole, in pieces -/
  | encode (pieces : List Bytes)
  | advance (size : Nat)
  | clear
  | fill (bytes : Bytes)
deriving DecidableEq, Repr

def Draft.apply (d : Draft) : DraftOp → Except CapacityError Unit × Draft
  | .put bytes =>
    match d.put bytes with
    | .ok d => (.ok (), d)
    | .error e => (.error e, d)
  | .encode pieces => d.encode pieces
  | .advance size =>
    match d.advance size with
    | .ok d => (.ok (), d)
    | .error e => (.error e, d)
  | .clear => (.ok (), d.clear)
  | .fill bytes => (.ok (), d.fill bytes)

end BusBridge
