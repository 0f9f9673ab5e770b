import AirPlay2.Lib.Text

/- A stream cipher as its keystream: byte `n + i` of the stream is XORed into byte `i`
   of a text that starts at position `n`. A context keeps the position from one text to
   the next (`encryptUpdate`). -/
namespace Lib

/-- The text XORed with the stream from position `n` on. -/
def xorAt (stream : ℕ → UInt8) (n : ℕ) (text : Bytes) : Bytes :=
  text.mapIdx fun i b => b ^^^ stream (n + i)

/-- One update of a context at position `n`: what it writes and the position after. -/
def encryptUpdate (stream : ℕ → UInt8) (n : ℕ) (text : Bytes) : Bytes × ℕ :=
  (xorAt stream n text, n + text.length)

@[simp] theorem length_xorAt (stream : ℕ → UInt8) (n : ℕ) (text : Bytes) :
    (xorAt stream n text).length = text.length := by
  simp [xorAt]

/-- The same stream at the same position takes itself back. -/
@[simp] theorem xorAt_xorAt (stream : ℕ → UInt8) (n : ℕ) (text : Bytes) :
    xorAt stream n (xorAt stream n text) = text := by
  apply List.ext_getElem
  · simp
  · intro i h₁ h₂
    simp only [xorAt, List.getElem_mapIdx]
    rw [UInt8.xor_assoc, UInt8.xor_self, UInt8.xor_zero]

end Lib
