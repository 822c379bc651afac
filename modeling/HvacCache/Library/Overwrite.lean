import HvacCache.Library.Posix

/-! The contents of a file after a write, byte by byte, and the bytes a transfer delivers. -/

namespace Posix

/-- A write puts its bytes at an offset; a gap before them is filled with zeros. -/
def overwrite (bytes : Bytes) (position : Nat) (data : Bytes) : Bytes :=
  if data = [] then bytes
  else
    (bytes ++ List.replicate (position - bytes.length) 0).take position ++ data ++
      bytes.drop (position + data.length)

section
variable {bytes data : Bytes} {position place : Nat}

theorem overwrite_inside (lower : position ≤ place) (upper : place < position + data.length) :
    (overwrite bytes position data)[place]? = data[place - position]? := by
  have written : data ≠ [] := by
    intro empty
    subst data
    simp at upper
    omega
  have front : ((bytes ++ List.replicate (position - bytes.length) 0).take position).length =
      position := by
    simp only [List.length_take, List.length_append, List.length_replicate]
    omega
  rw [overwrite, if_neg written, List.append_assoc,
    List.getElem?_append_right (by omega), front, List.getElem?_append_left (by omega)]

theorem overwrite_outside (stored : place < bytes.length)
    (outside : ¬(position ≤ place ∧ place < position + data.length)) :
    (overwrite bytes position data)[place]? = bytes[place]? := by
  by_cases empty : data = []
  · rw [overwrite, if_pos empty]
  have front : ((bytes ++ List.replicate (position - bytes.length) 0).take position).length =
      position := by
    simp only [List.length_take, List.length_append, List.length_replicate]
    omega
  rw [overwrite, if_neg empty, List.append_assoc]
  by_cases before : place < position
  · rw [List.getElem?_append_left (by omega), List.getElem?_take_of_lt before,
      List.getElem?_append_left stored]
  · rw [List.getElem?_append_right (by omega), front, List.getElem?_append_right (by omega),
      List.getElem?_drop]
    congr 1
    omega

theorem slice_getElem? {count index : Nat} (within : index < min count maxTransfer) :
    (slice bytes position count)[index]? = bytes[position + index]? := by
  rw [slice, List.getElem?_take_of_lt within, List.getElem?_drop]

end

end Posix
