/-!
The bytes of a text, and the text of bytes that may be cut short inside a character.
-/

namespace DungeonForge.Text

def bytes (s : String) : List UInt8 :=
  s.toByteArray.toList

theorem length_toList_loop (bs : ByteArray) (i : Nat) (r : List UInt8) :
    (ByteArray.toList.loop bs i r).length = bs.size - i + r.length := by
  induction i, r using ByteArray.toList.loop.induct bs with
  | case1 i r more ih =>
    rw [ByteArray.toList.loop, if_pos more, ih, List.length_cons]
    omega
  | case2 i r done =>
    rw [ByteArray.toList.loop, if_neg done, List.length_reverse]
    omega

theorem length_bytes (s : String) : (bytes s).length = s.utf8ByteSize := by
  rw [bytes, ByteArray.toList, length_toList_loop]
  simp

/-- The text of bytes that begin a UTF-8 text. Up to three bytes at the end may belong to a
character that is cut; they are shown as one replacement character. -/
def ofCutBytes (bs : List UInt8) : String :=
  ((List.range 4).findSome? fun lost =>
    (String.fromUTF8? (bs.take (bs.length - lost)).toByteArray).map fun s =>
      if lost = 0 then s else s.push '\ufffd').getD "\ufffd"

/-- A text without the byte order mark in front of it. -/
def withoutMark : List Char → List Char
  | '\ufeff' :: cs => cs
  | cs => cs

end DungeonForge.Text
