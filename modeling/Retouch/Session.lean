import Retouch.Image.Alteration
import Retouch.Image.Origin
import Retouch.Image.Saving

/-!
Images under names, worked on by commands. A command on a name that holds no image does nothing at
all. A temporary file is deleted with the command that takes it from the last image that held it.
-/
namespace Retouch

inductive Origin
  | file (path : String)
  | bytes (bytes : Bytes)
  | stream (stream : Image.Stream)
  | canvas (size : Size) (background : Option Color)
  | copyOf (name : String)
  | maskOf (name : String)

inductive Command
  /-- Makes an image and gives it the name, in place of the image that had it. -/
  | make (name : String) (origin : Origin)
  | drop (name : String)
  | inspect (name : String)
  | alter (name : String) (edit : Alteration String)
  | size (name : String)
  | colorAt (name : String) (point : Point)
  | histogram (name : String)
  | plan (name : String) (path : Option String) (options : Save.Options)
  | save (name : String) (path : Option String) (options : Save.Options)
  | get (name format : String) (options : Save.Options)
  | present (name format : String) (options : Save.Options) (room : Option Nat)
  | insertNote (name key value : String)
  | eraseNote (name key : String)
  | note (name key : String)

inductive Answer
  | done
  | image (image : Image)
  | size (size : Size)
  | color (color : Color)
  | colors (colors : List Color)
  | plan (plan : Save.Plan)
  | bytes (bytes : Bytes)
  /-- The bytes that arrived, and the media type if all did. -/
  | presented (arrived : Bytes) (type : Except Cause String)
  | note (value : Option String)

/-- What comes of a command. -/
inductive Outcome
  | absent
  | failed (cause : Cause)
  | answered (answer : Answer)

structure Session where
  kit : Tool.Kit
  images : List (String × Image) := []
  world : World

namespace Session

def image? (session : Session) (name : String) : Option Image := session.images.lookup name

def put (session : Session) (name : String) (image : Image) : Session :=
  { session with images := (name, image) :: session.images.filter (·.1 != name) }

def erase (session : Session) (name : String) : Session :=
  { session with images := session.images.filter (·.1 != name) }

theorem image?_put (session : Session) (name other : String) (image : Image) :
    (session.put name image).image? other =
      if other = name then some image else session.image? other := by
  by_cases same : other = name
  · simp [image?, put, same]
  · have far : (other == name) = false := beq_eq_false_iff_ne.mpr same
    simp only [image?, put, List.lookup_cons, far, same, if_false]
    induction session.images with
    | nil => rfl
    | cons head rest ih =>
      obtain ⟨key, value⟩ := head
      by_cases kept : key = name
      · subst kept
        simpa [List.lookup_cons, far] using ih
      · simp only [List.filter_cons, bne_iff_ne, ne_eq, kept, not_false_eq_true, if_true,
          List.lookup_cons, ih]

def held (session : Session) : List ScratchFile :=
  session.images.flatMap fun (_, image) => image.arguments.resources

/-- Deletes those of some temporary files that no image refers to any more. -/
def release (session : Session) (files : List ScratchFile) : Session :=
  { session with world := session.world.discardUnheld files session.held }

/-- The act that makes an image, unless it starts from an image that is not there. -/
def making (session : Session) : Origin → Option (Act Image)
  | .file path => some (Image.openFile session.kit path)
  | .bytes bytes => some (Image.load session.kit bytes)
  | .stream stream => some (Image.read session.kit stream)
  | .canvas size background => some (Image.canvas size background)
  | .copyOf name => (session.image? name).map fun image => return image.copy
  | .maskOf name => (session.image? name).map fun image => return image.mask

def make (session : Session) (name : String) (origin : Origin) : Outcome × Session :=
  match session.making origin with
  | none => (.absent, session)
  | some act =>
    match act session.world with
    | (.ok image, world) => (.answered (.image image), { session with world }.put name image)
    | (.error cause, world) => (.failed cause, { session with world })

/-- Works on the image of a name. -/
def work (session : Session) (name : String) (edit : StateM Desk Outcome) : Outcome × Session :=
  match session.image? name with
  | none => (.absent, session)
  | some image =>
    let (outcome, desk) := edit ⟨image, session.world⟩
    (outcome, { session with world := desk.world }.put name desk.image)

def edit {α : Type} (session : Session) (name : String) (edit : Edit α) (answer : α → Answer) :
    Outcome × Session :=
  session.work name do
    match ← edit.run with
    | .ok value => return .answered (answer value)
    | .error cause => return .failed cause

def alter (session : Session) (name : String) (edit : Alteration String) : Outcome × Session :=
  match edit.resolve? session.image? with
  | none => (.absent, session)
  | some edit => session.edit name (edit.apply session.kit) fun _ => .done

/-- Reads something off an image and may replace its notes. -/
def annotate (session : Session) (name : String)
    (step : Metadata → Option String × Metadata) : Outcome × Session :=
  session.work name fun desk =>
    let (value, notes) := step desk.image.notes
    (.answered (.note value), { desk with image := { desk.image with notes } })

def step (session : Session) : Command → Outcome × Session
  | .make name origin => session.make name origin
  | .drop name =>
    match session.image? name with
    | none => (.absent, session)
    | some _ => (.answered .done, session.erase name)
  | .inspect name => session.edit name Edit.image .image
  | .alter name edit => session.alter name edit
  | .size name => session.edit name (Image.resolve session.kit) .size
  | .colorAt name point => session.edit name (Image.colorAt session.kit point) .color
  | .histogram name => session.edit name (Image.histogram session.kit) .colors
  | .plan name path options =>
    session.edit name (do (← Edit.image).plan session.kit path options) .plan
  | .save name path options =>
    session.edit name (Image.save session.kit path options) fun _ => .done
  | .get name format options => session.edit name (Image.get session.kit format options) .bytes
  | .present name format options room =>
    session.work name do
      let (arrived, type) ← Image.present session.kit format options room
      return .answered (.presented arrived type)
  | .insertNote name key value =>
    session.annotate name fun notes => (notes.get? key, notes.insert key value)
  | .eraseNote name key => session.annotate name fun notes => (notes.get? key, notes.erase key)
  | .note name key => session.annotate name fun notes => (notes.get? key, notes)

/-- Carries out a command and cleans up after it. -/
def perform (session : Session) (command : Command) : Outcome × Session :=
  let (outcome, after) := session.step command
  (outcome, after.release session.held)

/-- Prepares the tool; there is a session only if that succeeds. -/
def start (settings : Tool.Settings) (world : World) : Except Cause Session × World :=
  match Tool.Kit.prepare settings world with
  | (.ok kit, world) => (.ok { kit, world }, world)
  | (.error cause, world) => (.error cause, world)

end Session

end Retouch
