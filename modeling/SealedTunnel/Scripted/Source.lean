import SealedTunnel.Poll

namespace SealedTunnel.Scripted

inductive SourceItem
  | data (bytes : Bytes)
  /-- Not ready once. -/
  | yield
  /-- One read of nothing. -/
  | ended
  | wait (millis : Nat)
  | fail (error : IoError)
  deriving DecidableEq, Repr

structure Source where
  items : List SourceItem
  /-- Whether more items may come after the last one. -/
  isOpen : Bool
  now : Nat
  /-- When the wait at the front is over. -/
  due : Option Nat
  deriving DecidableEq, Repr

namespace Source

def ofItems (items : List SourceItem) (isOpen : Bool) : Source := ⟨items, isOpen, 0, none⟩

def ofBytes (bytes : Bytes) : Source := ofItems [.data bytes] false

def feed (source : Source) (items : List SourceItem) : Source := { source with items := source.items ++ items }

def close (source : Source) : Source := { source with isOpen := false }

def setClock (source : Source) (now : Nat) : Source := { source with now }

/-- The end of a wait that begins now unless it has begun. -/
def dueTime (source : Source) (millis : Nat) : Nat := source.due.getD (source.now + millis)

def readItems (source : Source) (room : Nat) : List SourceItem → Poll (Except IoError Bytes) × Source
  | [] =>
    if source.isOpen then (.stalled .peer, { source with items := [] })
    else (.ready (.ok []), { source with items := [] })
  | .data [] :: rest => readItems source room rest
  | .data (byte :: bytes) :: rest =>
    let left := (byte :: bytes).drop room
    (.ready (.ok ((byte :: bytes).take room)), { source with items := .data left :: rest })
  | .yield :: rest => (.stalled .yielded, { source with items := rest })
  | .ended :: rest => (.ready (.ok []), { source with items := rest })
  | .fail error :: rest => (.ready (.error error), { source with items := rest })
  | .wait millis :: rest =>
    let due := source.dueTime millis
    if due ≤ source.now then readItems { source with due := none } room rest
    else (.stalled (.clock due), { source with items := .wait millis :: rest, due := some due })

def read (source : Source) (room : Nat) : Poll (Except IoError Bytes) × Source :=
  readItems source room source.items

def itemLength : SourceItem → Nat
  | .data bytes => bytes.length
  | _ => 0

def supplyOf : List SourceItem → Nat
  | [] => 0
  | item :: rest => itemLength item + supplyOf rest

def supply (source : Source) : Nat := supplyOf source.items

theorem supply_readItems {source : Source} {room : Nat} {items : List SourceItem} {bytes : Bytes}
    (done : (readItems source room items).1 = .ready (.ok bytes)) :
    supply (readItems source room items).2 + bytes.length ≤ supplyOf items := by
  fun_induction readItems source room items with
  | case1 => simp at done
  | case2 =>
    simp only [Poll.ready.injEq, Except.ok.injEq] at done
    subst done
    simp [supply]
  | case3 source rest ih =>
    have fewer := ih done
    simpa [supplyOf, itemLength] using fewer
  | case4 source byte more rest left =>
    simp only [Poll.ready.injEq, Except.ok.injEq] at done
    subst done
    simp only [supply, supplyOf, left, itemLength, List.length_drop, List.length_take]
    omega
  | case5 => simp at done
  | case6 source rest =>
    simp only [Poll.ready.injEq, Except.ok.injEq] at done
    subst done
    simp [supply, supplyOf, itemLength]
  | case7 => simp at done
  | case8 source millis rest due passed ih =>
    have fewer := ih done
    simpa [supplyOf, itemLength] using fewer
  | case9 => simp at done

theorem length_readItems_le {source : Source} {room : Nat} {items : List SourceItem} {bytes : Bytes}
    (done : (readItems source room items).1 = .ready (.ok bytes)) : bytes.length ≤ room := by
  fun_induction readItems source room items with
  | case1 => simp at done
  | case2 | case6 =>
    simp only [Poll.ready.injEq, Except.ok.injEq] at done
    subst done
    exact Nat.zero_le _
  | case3 source rest ih => exact ih done
  | case4 source byte more rest left =>
    simp only [Poll.ready.injEq, Except.ok.injEq] at done
    subst done
    exact List.length_take_le _ _
  | case5 => simp at done
  | case7 => simp at done
  | case8 source millis rest due passed ih => exact ih done
  | case9 => simp at done

instance : ByteSource Source where
  read := read
  supply := supply
  supply_read _ _ _ done := supply_readItems done

end Source
end SealedTunnel.Scripted
