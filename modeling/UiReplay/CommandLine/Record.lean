import UiReplay.CommandLine.Inspect
import UiReplay.Recording.Session

/-!
# Recording into a file

The device is asked for its state first, which tells how large its screen is.  Then it
is asked for events again and again, until the user interrupts the program.  Then the
workflow is saved.  Without a name it is named after the file.

The interrupt comes while the device is asked for events, and the answer to that
request still counts.  A recording that nobody interrupts asks for none.  When the
recorder breaks down over an event, the device is not asked any more.  The recording
still waits for the interrupt, and saves what it has.

`Session.absorb_error` says that an answer that is an error changes nothing.
-/

namespace UiReplay

/-- The measures of a screen. -/
def DeviceInfo.ofScreen (screen : Rect) : DeviceInfo where
  screenWidth := screen.width.toNat?
  screenHeight := screen.height.toNat?

/-- The name of a recording into a file. -/
def recordingName (path : String) (name : Option String) : String :=
  name.getD ((FilePath.stem? path).getD "recording")

namespace Job

/-- Asks for events so many times, until the recorder breaks down. -/
def follow : Nat → Session → Job Session
  | 0, s => pure s
  | times + 1, s => do
      let outcome ← ask (.events s.last)
      let intake ← withIds (s.absorb (outcome.events s.last))
      if intake.broken then return intake.session
      follow times intake.session

/-- Records a workflow into a file. -/
def record (path : String) (name : Option String) : Job Unit := do
  let state ← state
  let w ← withIds (Workflow.make (recordingName path name))
  let w := { w with deviceInfo := (Node.screen? state.tree).map DeviceInfo.ofScreen }
  print "Recording, press Ctrl-C to stop"
  let session ← follow ((← get).interruptAt.getD 0) { workflow := w }
  let w := session.workflow
  let files ← orFail .storage (w.save (← get).files path)
  modify fun d => { d with files := files }
  print ("Saved " ++ Number.natText w.steps.length ++ " step(s) to " ++ path)

end Job

theorem Session.absorb_error (s : Session) (e : DeviceError) :
    s.absorb (.error e) = pure { session := s } := rfl

/-! ## Tests -/

example : recordingName "flows/my.flow.yaml" none = "my.flow" := by decide +kernel
example : recordingName ".." none = "recording" := by decide +kernel
example : DeviceInfo.ofScreen ⟨-10, 5, 90, 25⟩
    = { screenWidth := some 100, screenHeight := some 20 } := by decide

end UiReplay
