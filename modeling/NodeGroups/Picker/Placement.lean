import NodeGroups.Json.Decoder
import NodeGroups.Numeric.Binary

set_option autoImplicit false

namespace NodeGroups.Picker

open Numeric (Binary binary32)

structure Box where
  x : Binary
  y : Binary
  width : Binary
  height : Binary
  deriving DecidableEq

namespace Box

/-- A box without extent at the origin. -/
def zero : Box := ⟨.zero, .zero, .zero, .zero⟩

def decoder : Json.Decoder Box := fun levels s => do
  let f ← Json.Decoder.fields? ["x", "y", "width", "height"] levels s
  return {
    x := ← f.required "x" .single
    y := ← f.required "y" .single
    width := ← f.required "width" .single
    height := ← f.required "height" .single }

end Box

/-- The place of a list in the document. -/
structure Placement where
  left : Binary
  top : Binary
  width : Binary
  deriving DecidableEq

namespace Placement

def layer : Nat := 1000

/-- The place below a box, `pad` wider than it, on a page that was scrolled by `scroll`. -/
def below (box : Box) (scroll pad : Binary) : Placement where
  left := box.x
  top := binary32.add (binary32.add box.y box.height) scroll
  width := binary32.add box.width pad

def toJson (p : Placement) : Json :=
  .object [("left", .ofBinary p.left), ("top", .ofBinary p.top), ("width", .ofBinary p.width),
    ("z_index", .nat layer)]

end Placement

end NodeGroups.Picker
