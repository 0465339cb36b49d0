import Breadboard.Console.Frame

/-!
# Handing frames to the terminal

The terminal may be slower than the console. It is handed the latest frame
only: a frame that was not read when the next one is drawn is never shown.
-/

namespace Breadboard

/-- **Frame watch**: the latest frame. -/
structure FrameWatch where
  /-- The latest frame. -/
  latest : Frame
  /-- Whether it has not been read. -/
  unread : Bool
  /-- Whether there is somebody to read it. -/
  attended : Bool
  deriving DecidableEq

namespace FrameWatch

/-- A watch before the first frame. -/
def start : FrameWatch := ⟨.blank 0 0, false, true⟩

/-- Hands a frame over, if there is somebody to read it. -/
def send? (w : FrameWatch) (f : Frame) : Option FrameWatch :=
  if w.attended then some { w with latest := f, unread := true } else none

/-- Reads the latest frame, if it has not been read. -/
def read (w : FrameWatch) : FrameWatch × Option Frame :=
  ({ w with unread := false }, if w.unread then some w.latest else none)

/-- Nobody reads frames any more. -/
def close (w : FrameWatch) : FrameWatch := { w with attended := false }

end FrameWatch

end Breadboard
