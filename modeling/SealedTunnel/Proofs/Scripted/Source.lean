import SealedTunnel.Proofs.Stream.Hearing
import SealedTunnel.Scripted.Source

/-! Scripts whose source yields all of their data: those that do not let it end before. -/
namespace SealedTunnel.Scripted

def SourceItem.bytes : SourceItem → Bytes
  | data bytes => bytes
  | _ => []

namespace Source

def dataOf (items : List SourceItem) : Bytes := items.flatMap SourceItem.bytes

def Leaves (items : List SourceItem) (room : Nat) : Poll (Except IoError Bytes) → Source → Prop
  | .ready (.ok bytes), next =>
    dataOf items = bytes ++ dataOf next.items ∧ .ended ∉ next.items ∧ (0 < room → bytes = [] → dataOf items = [])
  | _, next => dataOf next.items = dataOf items ∧ .ended ∉ next.items

theorem readItems_leaves (source : Source) (room : Nat) (items : List SourceItem) (lasting : .ended ∉ items) :
    Leaves items room (readItems source room items).1 (readItems source room items).2 := by
  fun_induction readItems source room items with
  | case1 => exact ⟨rfl, List.not_mem_nil⟩
  | case2 => exact ⟨rfl, List.not_mem_nil, fun _ _ => rfl⟩
  | case3 source rest ih => exact ih (fun mem => lasting (List.mem_cons_of_mem _ mem))
  | case4 source byte bytes rest left =>
      refine ⟨?_, ?_, ?_⟩
      · simp only [dataOf, left, List.flatMap_cons, SourceItem.bytes]
        rw [← List.append_assoc, List.take_append_drop]
      · intro mem
        rcases List.mem_cons.mp mem with other | mem
        · cases other
        · exact lasting (List.mem_cons_of_mem _ mem)
      · intro wide none
        rcases List.take_eq_nil_iff.mp none with narrow | none
        · omega
        · cases none
  | case5 source rest => exact ⟨rfl, fun mem => lasting (List.mem_cons_of_mem _ mem)⟩
  | case6 source rest => exact absurd List.mem_cons_self lasting
  | case7 source error rest => exact ⟨rfl, fun mem => lasting (List.mem_cons_of_mem _ mem)⟩
  | case8 source millis rest due passed ih => exact ih (fun mem => lasting (List.mem_cons_of_mem _ mem))
  | case9 source millis rest due early => exact ⟨rfl, lasting⟩

theorem leaves_read {source next : Source} {room : Nat} {answer : Poll (Except IoError Bytes)}
    (lasting : .ended ∉ source.items) (done : ByteSource.read source room = (answer, next)) :
    Leaves source.items room answer next := by
  have leaves := readItems_leaves source room source.items lasting
  have same : readItems source room source.items = (answer, next) := done
  rwa [same] at leaves

theorem delivers_data : Delivers fun (source : Source) left => .ended ∉ source.items ∧ dataOf source.items = left where
  piece := by
    rintro source next left bytes room ⟨lasting, rfl⟩ done
    obtain ⟨taken, still, _⟩ := leaves_read lasting done
    exact ⟨dataOf next.items, taken, still, rfl⟩
  ended := by
    rintro source next left room ⟨lasting, rfl⟩ wide done
    obtain ⟨_, _, some⟩ := leaves_read lasting done
    exact some wide rfl
  failed := by
    rintro source next left room error ⟨lasting, rfl⟩ done
    obtain ⟨same, still⟩ := leaves_read lasting done
    exact ⟨still, same⟩
  stalled := by
    rintro source next left room reason ⟨lasting, rfl⟩ done
    obtain ⟨same, still⟩ := leaves_read lasting done
    exact ⟨still, same⟩

theorem yields_data (source : Source) (lasting : .ended ∉ source.items) : Yields source (dataOf source.items) :=
  ⟨_, delivers_data, lasting, rfl⟩

end Source
end SealedTunnel.Scripted
