import Retouch.Proofs.Image.Course
import Retouch.Proofs.Tool.Calls

/-!
The calls that acts and edits make. A call is for a query, which says what it is about: a file, or
an image, whose tokens all stand in the call. The queries of an edit depend on the replies to those
before them, and on what is known of the image without asking.
-/
namespace Retouch

/-- What the tool is called for. -/
inductive Query
  | palette (path : String)
  | frames (path : String)
  | size (image : Image)
  | pixel (image : Image) (point : Point)
  | colors (image : Image)
  /-- The tokens after those of the image say how it is written, and where. -/
  | rendering (image : Image) (tail : List String)

def Query.argv (kit : Tool.Kit) : Query → Argv
  | palette path => kit.identify ++ ["-format", "%[colorspace]\n", path]
  | frames path => kit.identify ++ ["-format", "%n\n", path]
  | size image =>
    kit.convert ++ image.input ++ image.arguments.tokens ++ ["-format", "%wx%h\n", "info:"]
  | pixel image point =>
    kit.convert ++ image.input ++ image.arguments.tokens ++
      ["-format", s!"%[hex:p\x7b{point.x},{point.y}\x7d]\n", "info:"]
  | colors image =>
    kit.convert ++ image.input ++ image.arguments.tokens ++ ["-format", "%c", "histogram:info:-"]
  | rendering image tail => kit.convert ++ image.input ++ image.arguments.tokens ++ tail

/-- The tokens that a plan puts after those of the image. -/
def Save.Plan.tail (planned : Plan) (options : Options) : List String :=
  planned.layers.tokens ++
    (match compression planned.format options with
      | .ok (some quality) => ["-quality", toString quality]
      | _ => []) ++
    resolution options ++ ["-format", planned.format, planned.destination]

theorem Save.plan_argv {request : Request} {destination : String} {options : Options}
    {planned : Plan} (settled : plan request destination options = .ok planned) :
    resolveFormat options.format destination request.source = .ok planned.format ∧
      planned.argv = request.convert ++ request.input ++ request.arguments ++
        planned.tail options := by
  obtain ⟨format, layers, quality, resolved, -, compressed, rfl⟩ := plan_eq_ok.1 settled
  refine ⟨resolved, ?_⟩
  simp only [Request.drafted, Plan.tail, compressed, List.append_assoc]
  cases quality <;> rfl

theorem Image.plan_argv {kit : Tool.Kit} {image : Image} {path : Option String}
    {options : Save.Options} {planned : Save.Plan}
    (settled : image.plan kit path options = .ok planned) :
    planned.argv = (Query.rendering image (planned.tail options)).argv kit := by
  unfold plan at settled
  split at settled
  · exact (Save.plan_argv settled).2
  · cases settled

section Asking
variable (kit : Tool.Kit)

def World.asked (world : World) (query : Query) : List Query :=
  if world.starts (query.argv kit) then [query] else []

/-- What is asked after an act, which has to go well. -/
def onceDone {α : Type} (result : Except Cause α × World) (next : α → World → List Query) :
    List Query :=
  match result with
  | (.ok value, after) => next value after
  | (.error _, _) => []

def examining (path : String) (world : World) : List Query :=
  world.asked kit (.palette path) ++
    onceDone (kit.palette path world) fun _ between => between.asked kit (.frames path)

namespace Image

def opening (path : String) (world : World) : List Query :=
  if world.files.isFile path then examining kit path world else []

def loading (bytes : Bytes) (world : World) : List Query :=
  onceDone (World.mint kit.tempDir "im" bytes world) fun file after =>
    examining kit file.path after

/-- A size that is known is not asked for. -/
def measuring (image : Image) (world : World) : List Query :=
  match image.size with
  | some _ => []
  | none => world.asked kit (.size image)

def measuringBoth (image other : Image) (world : World) : List Query :=
  image.measuring kit world ++
    onceDone (image.measure kit world) fun _ between => other.measuring kit between

def sampling (image : Image) (point : Point) (world : World) : List Query :=
  image.measuring kit world ++ onceDone (image.measure kit world) fun size between =>
    if point.isIn size then between.asked kit (.pixel image point) else []

/-- A plan that is made and has a directory to go to is carried out. -/
def saving (image : Image) (path : Option String) (options : Save.Options) (world : World) :
    List Query :=
  match image.plan kit path options with
  | .error _ => []
  | .ok planned => onceDone (makeParent planned.destination world) fun _ between =>
      between.asked kit (.rendering image (planned.tail options))

def fetching (image : Image) (format : String) (options : Save.Options) (world : World) :
    List Query :=
  onceDone (World.create kit.tempDir "im" ("." ++ Text.lowercase format) world) fun file after =>
    image.saving kit (some file.path) { options with format := some format } after

def presenting (image : Image) (format : String) (options : Save.Options) (world : World) :
    List Query :=
  match Save.mediaType format with
  | .error _ => []
  | .ok _ => image.fetching kit format options world

end Image

/-- Only edits that need a size ask for one. -/
def Alteration.asking (image : Image) (world : World) : Alteration Image → List Query
  | crop .. | fill _ => image.measuring kit world
  | paste other _ alpha => if 100 < alpha then [] else image.measuringBoth kit other world
  | applyMask mask => image.measuringBoth kit mask world
  | _ => []

end Asking

/-- The calls made by the end are those made before and the ones for these queries. -/
def World.Called (kit : Tool.Kit) (before : World) (queries : List Query) (after : World) : Prop :=
  after.calls = before.calls ++ queries.map (Query.argv kit)

namespace World.Called
variable {kit : Tool.Kit} {before between after : World} {first second : List Query}

theorem none (same : after.calls = before.calls) : before.Called kit [] after := by
  simp [Called, same]

theorem trans (here : before.Called kit first between) (later : between.Called kit second after) :
    before.Called kit (first ++ second) after := by
  simp only [Called] at here later ⊢
  rw [later, here, List.map_append, List.append_assoc]

theorem since (same : between.calls = before.calls) (called : between.Called kit first after) :
    before.Called kit first after := by
  simpa only [Called, same] using called

theorem until_later {later : World} (called : before.Called kit first after)
    (same : later.calls = after.calls) : before.Called kit first later := by
  rw [Called, same]
  exact called

/-- What comes after an act that has gone well is asked after what the act itself asks. -/
theorem bind {α β : Type} {act : Act α} {next : α → Act β} {later : α → World → List Query}
    (here : before.Called kit first (act before).2)
    (there : ∀ value after, act before = (.ok value, after) →
      after.Called kit (later value after) (next value after).2) :
    before.Called kit (first ++ onceDone (act before) later) ((act >>= next) before).2 := by
  rw [Stepwise.bind_apply]
  rcases ran : act before with ⟨cause | value, after⟩ <;> rw [ran] at here
  · simpa only [onceDone, List.append_nil] using here
  · exact here.trans (there value after ran)

end World.Called

namespace World
variable {kit : Tool.Kit}

theorem called_run (query : Query) (world : World) :
    world.Called kit (world.asked kit query) (run (query.argv kit) world).2 := by
  unfold Called asked
  rw [run_calls, entry]
  split <;> rfl

theorem called_ask {α : Type} (query : Query) (read : Tool.Output → Except Cause α)
    (world : World) : world.Called kit (world.asked kit query)
      ((run (query.argv kit) >>= fun output => (liftM (read output) : Act α)) world).2 := by
  have called : world.Called kit _ _ := called_run query world
  rw [Stepwise.bind_apply]
  rcases ran : run (query.argv kit) world with ⟨cause | output, after⟩ <;> rw [ran] at called
  · exact called
  · simp only
    cases read output <;> exact called

theorem create_calls (directory stem suffix : String) (world : World) :
    (create directory stem suffix world).2.calls = world.calls := by
  unfold create
  simp only
  split <;> rfl

theorem mint_calls (directory stem : String) (content : Bytes) (world : World) :
    (mint directory stem content world).2.calls = world.calls := by
  have course : Course fun before after => after.calls = before.calls :=
    ⟨fun _ => rfl, fun first second => second.trans first⟩
  apply course.mint (create_calls directory stem "") _ fun _ _ => rfl
  intro file world
  unfold fill
  simp only
  split <;> rfl

end World

namespace Image
variable {kit : Tool.Kit}

theorem called_measure (image : Image) (world : World) :
    world.Called kit (image.measuring kit world) (image.measure kit world).2 := by
  unfold measure measuring
  cases image.size with
  | some size => exact .none rfl
  | none =>
    have same : kit.sizeCall image.tokens = (Query.size image).argv kit := by
      simp [Tool.Kit.sizeCall, Tool.Kit.infoCall, Query.argv, tokens]
    simp only [Tool.Kit.size, same]
    exact World.called_ask _ _ world

theorem called_examine (path : String) (source : Option String) (notes : Metadata)
    (world : World) :
    world.Called kit (examining kit path world) (examine kit path source notes world).2 := by
  have palette (world : World) :
      world.Called kit (world.asked kit (.palette path)) (kit.palette path world).2 :=
    World.called_ask (.palette path) _ world
  have frames (world : World) :
      world.Called kit (world.asked kit (.frames path)) (kit.frames path world).2 :=
    World.called_ask (.frames path) _ world
  apply World.Called.bind (palette world)
  intro _ after _
  have counted := frames after
  rw [Stepwise.bind_apply]
  rcases ran : kit.frames path after with ⟨cause | count, last⟩ <;> rw [ran] at counted <;>
    exact counted

theorem called_openFile (path : String) (world : World) :
    world.Called kit (opening kit path world) (openFile kit path world).2 := by
  rw [openFile_eq, opening]
  split
  · exact called_examine path _ _ world
  · exact .none rfl

theorem called_load (bytes : Bytes) (world : World) :
    world.Called kit (loading kit bytes world) (load kit bytes world).2 := by
  have kept := World.mint_calls kit.tempDir "im" bytes world
  unfold load loading
  rw [Stepwise.bind_apply]
  rcases minted : World.mint kit.tempDir "im" bytes world with ⟨cause | file, between⟩ <;>
    rw [minted] at kept
  · exact .none kept
  · have examined := World.Called.since kept
      (called_examine file.path none {} between : between.Called kit _ _)
    simp only [onceDone, Stepwise.bind_apply, World.guarding]
    rcases ran : examine kit file.path none {} between with ⟨cause | image, last⟩ <;>
      rw [ran] at examined
    · exact examined.until_later rfl
    · exact examined

theorem called_resolve (image : Image) (world : World) :
    world.Called kit (image.measuring kit world) (resolve kit ⟨image, world⟩).2.world := by
  rw [resolve_world]
  exact called_measure image world

theorem called_colorAt (image : Image) (point : Point) (world : World) :
    world.Called kit (image.sampling kit point world)
      (colorAt kit point ⟨image, world⟩).2.world := by
  have measured : world.Called kit _ _ := called_measure image world
  unfold colorAt sampling
  rw [Edit.bind_resolve]
  rcases ran : image.measure kit world with ⟨cause | size, after⟩ <;> rw [ran] at measured
  · simpa only [onceDone, List.append_nil] using measured
  · simp only [onceDone]
    split
    · have same : kit.pixelCall image.tokens point = (Query.pixel image point).argv kit := by
        simp [Tool.Kit.pixelCall, Tool.Kit.infoCall, Query.argv, tokens]
      have asked : after.Called kit (after.asked kit (.pixel image point))
          (kit.colorAt image.tokens point after).2 := by
        unfold Tool.Kit.colorAt
        rw [same]
        exact World.called_ask _ _ after
      exact measured.trans asked
    · rw [List.append_nil]
      exact measured

theorem called_histogram (image : Image) (world : World) :
    world.Called kit (world.asked kit (.colors image)) (histogram kit ⟨image, world⟩).2.world := by
  have same : kit.histogramCall image.tokens = (Query.colors image).argv kit := by
    simp [Tool.Kit.histogramCall, Query.argv, tokens]
  have asked : world.Called kit (world.asked kit (.colors image))
      (kit.histogram image.tokens world).2 := by
    unfold Tool.Kit.histogram
    rw [same]
    exact World.called_ask _ _ world
  exact asked

theorem makeParent_calls (path : String) (world : World) :
    (makeParent path world).2.calls = world.calls := by
  unfold makeParent
  split
  · rfl
  · split
    · rfl
    · simp only
      split <;> rfl

theorem called_save (image : Image) (path : Option String) (options : Save.Options)
    (world : World) :
    world.Called kit (image.saving kit path options world)
      (save kit path options ⟨image, world⟩).2.world := by
  rw [save_eq, saving]
  cases settled : image.plan kit path options with
  | error cause => exact .none rfl
  | ok planned =>
    have kept := makeParent_calls planned.destination world
    simp only
    rcases made : makeParent planned.destination world with ⟨cause | _, between⟩ <;>
      rw [made] at kept
    · exact .none kept
    · have called : between.Called kit _ _ :=
        World.called_run (.rendering image (planned.tail options)) between
      rw [← plan_argv settled] at called
      have whole := World.Called.since kept called
      simp only [onceDone]
      rcases ran : World.run planned.argv between with ⟨_ | _, after⟩ <;> rw [ran] at whole <;>
        exact whole

theorem called_get (image : Image) (format : String) (options : Save.Options) (world : World) :
    world.Called kit (image.fetching kit format options world)
      (get kit format options ⟨image, world⟩).2.world := by
  have kept := World.create_calls kit.tempDir "im" ("." ++ Text.lowercase format) world
  rw [get_eq, fetching]
  rcases created : World.create kit.tempDir "im" ("." ++ Text.lowercase format) world with
    ⟨cause | file, between⟩ <;> rw [created] at kept
  · exact .none kept
  · have saved : between.Called kit _ _ :=
      called_save image (some file.path) { options with format := some format } between
    have whole := World.Called.since kept saved
    simp only [onceDone]
    rcases ran : save kit (some file.path) { options with format := some format }
      ⟨image, between⟩ with ⟨_ | _, desk⟩ <;> rw [ran] at whole <;> exact whole.until_later rfl

theorem called_present (image : Image) (format : String) (options : Save.Options)
    (room : Option Nat) (world : World) :
    world.Called kit (image.presenting kit format options world)
      (present kit format options room ⟨image, world⟩).2.world := by
  rw [present_eq, presenting]
  cases Save.mediaType format with
  | error cause => exact .none rfl
  | ok type => exact called_get image format options world

end Image

theorem Alteration.called_apply {kit : Tool.Kit} (edit : Alteration Image) (image : Image)
    (world : World) :
    world.Called kit (edit.asking kit image world) (edit.apply kit ⟨image, world⟩).2.world := by
  have settled (result : Except Cause Image) (before : Image) (after : World) :
      (Edit.ended result before after).2.world = after := by cases result <;> rfl
  have both (other : Image) : world.Called kit (image.measuringBoth kit other world)
      (afterwards.both kit image world other) := by
    have own : world.Called kit _ _ := Image.called_measure image world
    unfold afterwards.both Image.measuringBoth
    rcases measured : image.measure kit world with ⟨_ | size, between⟩ <;> rw [measured] at own
    · simpa only [onceDone, List.append_nil] using own
    · exact own.trans (Image.called_measure other between)
  rw [apply_eq, settled]
  cases edit <;> simp only [afterwards, asking]
  case crop start size => exact Image.called_measure image world
  case fill content => exact Image.called_measure image world
  case applyMask mask => exact both mask
  case profile data => exact .none (World.mint_calls _ _ _ world)
  case paste other start alpha =>
    split
    · exact .none rfl
    · exact both other
  all_goals exact .none rfl

end Retouch
