import Retouch.Proofs.Effect.Kernel
import Retouch.Proofs.Grammar.Spelled

/-!
Numbers on the command line. An edit with a parameter that is not finite is refused, with the one
exception of a convolution, which writes the values of its kernel as they are; so every number that
is no value of a kernel is in figures.
-/
namespace Retouch

namespace Effect

def parameters : Effect → List Binary64
  | gamma correction => [correction]
  | blur sigma => [sigma]
  | brightness shift => [shift]
  | convolve kernel => kernel.values
  | _ => []

def kernel? : Effect → Option Kernel
  | convolve kernel => some kernel
  | _ => none

theorem refused_infinite {effect : Effect} (plain : effect.kernel? = none)
    (infinite : ∃ x ∈ effect.parameters, x.isFinite = false) :
    ∃ reason, effect.check = .error (.invalidArgument reason) := by
  obtain ⟨x, member, infinite⟩ := infinite
  cases effect with
  | gamma correction =>
    obtain rfl := List.mem_singleton.mp member
    have unfit : x.isPositive = false := Bool.eq_false_iff.mpr fun positive => by
      rw [Binary64.isFinite_of_isPositive positive] at infinite
      cases infinite
    exact ⟨_, by rw [check, checkGamma, unfit, Bool.not_false, refuseIf_true]⟩
  | blur sigma =>
    obtain rfl := List.mem_singleton.mp member
    have unfit : x.isNonnegative = false := Bool.eq_false_iff.mpr fun bounded => by
      rw [Binary64.isFinite_of_isNonnegative bounded] at infinite
      cases infinite
    exact ⟨_, by rw [check, checkBlur, unfit, Bool.not_false, refuseIf_true]⟩
  | brightness shift =>
    obtain rfl := List.mem_singleton.mp member
    cases rounded : x.round? with
    | none => exact ⟨_, by simp only [check, percentage, rounded]; rfl⟩
    | some percent =>
      rw [Binary64.isFinite_of_round? rounded] at infinite
      cases infinite
  | convolve kernel => cases plain
  | _ => cases member

end Effect

namespace Alteration
variable {ι : Type}

/-- The parameters that are floating-point numbers. -/
def parameters : Alteration ι → List Binary64
  | rotate angle _ => [angle]
  | effect chosen => chosen.parameters
  | _ => []

def kernel? : Alteration ι → Option Kernel
  | effect chosen => chosen.kernel?
  | _ => none

theorem settle_infinite {edit : Alteration Image} (plain : edit.kernel? = none)
    (infinite : ∃ x ∈ edit.parameters, x.isFinite = false) :
    ∃ reason, ∀ needs image, edit.settle needs image = .error (.invalidArgument reason) := by
  cases edit with
  | rotate angle background =>
    obtain ⟨x, member, infinite⟩ := infinite
    obtain rfl := List.mem_singleton.mp member
    have refused : ∃ reason, Revision.checkAngle x = .error (.invalidArgument reason) :=
      ⟨_, by rw [Revision.checkAngle, infinite, Bool.not_false, refuseIf_true]⟩
    obtain ⟨reason, refused⟩ := refused
    exact ⟨reason, fun needs image => settle_eq_error.mpr refused⟩
  | effect chosen =>
    obtain ⟨reason, refused⟩ := Effect.refused_infinite plain infinite
    exact ⟨reason, fun needs image => settle_eq_error.mpr refused⟩
  | _ =>
    obtain ⟨x, member, -⟩ := infinite
    cases member

theorem finite_of_settled {needs : Needs} {image out : Image} {edit : Alteration Image}
    (settled : edit.settle needs image = .ok out) (plain : edit.kernel? = none) :
    ∀ x ∈ edit.parameters, x.isFinite = true := by
  intro x member
  by_contra infinite
  obtain ⟨reason, refused⟩ :=
    settle_infinite plain ⟨x, member, Bool.not_eq_true _ ▸ infinite⟩
  rw [refused] at settled
  cases settled

/-- An edit with floating-point parameters asks for nothing. -/
theorem apply_numeric {edit : Alteration Image} (numeric : edit.parameters ≠ []) (kit : Tool.Kit)
    (image : Image) (world : World) : edit.apply kit ⟨image, world⟩ =
      Edit.ended (edit.settle (edit.needs kit image world) image) image world := by
  cases edit with
  | rotate | effect =>
    rw [apply_eq]
    cases (image.measure kit world).1 <;> rfl
  | _ => exact absurd rfl numeric

theorem apply_infinite {edit : Alteration Image} (plain : edit.kernel? = none)
    (infinite : ∃ x ∈ edit.parameters, x.isFinite = false) (kit : Tool.Kit) (image : Image)
    (world : World) : ∃ reason,
      edit.apply kit ⟨image, world⟩ = (.error (.invalidArgument reason), ⟨image, world⟩) := by
  obtain ⟨reason, refused⟩ := settle_infinite plain infinite
  obtain ⟨x, member, -⟩ := infinite
  exact ⟨reason, by rw [apply_numeric (List.ne_nil_of_mem member), refused, Edit.ended]⟩

theorem eq_convolve {edit : Alteration Image} {kernel : Kernel}
    (convolves : edit.kernel? = some kernel) : edit = effect (.convolve kernel) := by
  cases edit with
  | effect chosen =>
    cases chosen with
    | convolve own =>
      cases convolves
      rfl
    | _ => cases convolves
  | _ => cases convolves

/-- A convolution goes through or not whatever the values of its kernel are. -/
theorem apply_convolve (kernel : Kernel) (kit : Tool.Kit) (image : Image) (world : World) :
    if kernel.width = 3 ∧ kernel.height = 3 then
      (effect (.convolve kernel)).apply kit ⟨image, world⟩ = (.ok (), ⟨image.push "-convolve"
        [",".intercalate (kernel.values.map Binary64.text)], world⟩)
    else ∃ reason, (effect (.convolve kernel)).apply kit ⟨image, world⟩ =
      (.error (.invalidArgument reason), ⟨image, world⟩) := by
  have told (arguments : Arguments) := Effect.apply_eq (.convolve kernel) arguments
  simp only [apply, Edit.revise, Revision.affect, told, Effect.check]
  split
  next square =>
    rw [Effect.checkConvolve_eq_ok.mpr square]
    rfl
  next other =>
    obtain ⟨reason, refused⟩ := Effect.convolve_refused other
    exact ⟨reason, by rw [refused]⟩

theorem square_of_settled {needs : Needs} {image out : Image} {edit : Alteration Image}
    {kernel : Kernel} (settled : edit.settle needs image = .ok out)
    (convolves : edit.kernel? = some kernel) : kernel.width = 3 ∧ kernel.height = 3 := by
  obtain rfl := eq_convolve convolves
  by_contra other
  obtain ⟨reason, refused⟩ := Effect.convolve_refused other
  have passed : Effect.checkConvolve kernel = .ok () := (settle_eq_ok.mp settled).1
  rw [refused] at passed
  cases passed

end Alteration

namespace Grammar

/-- All flags, also those inside groups. -/
def Units.flags : Units → List Flag
  | done => []
  | flag first rest => first :: rest.flags
  | group _ body rest => body.flags ++ rest.flags

theorem Units.flags_append (units later : Units) :
    (units ++ later).flags = units.flags ++ later.flags := by
  induction units with
  | done => rfl
  | flag first rest ih => simp [flags, ih]
  | group source body rest _ ih => simp [flags, ih]

@[simp] theorem Units.flags_row (flags : List Flag) : (row flags).flags = flags := by
  induction flags with
  | nil => rfl
  | cons first rest ih => exact congrArg (first :: ·) ih

def numericFlags : List String :=
  ["-rotate", "-gamma", "-gaussian-blur", "-brightness-contrast", "-convolve"]

namespace Flag

/-- The numbers that a flag gives, as they are written: a comma stands between the values of a
kernel, and `x` between a strength and another one. -/
def numbers (flag : Flag) : List (List Char) :=
  if numericFlags.contains flag.name then
    flag.values.flatMap fun value =>
      Text.splitAll (if flag.name = "-convolve" then ',' else 'x') value.toList
  else []

/-- The numbers are in figures; but where they are the values of a kernel, it is one in use, and
they are what it has. -/
def Sound (used : Kernel → Prop) (flag : Flag) : Prop :=
  if flag.name = "-convolve" then
    ∃ kernel, used kernel ∧ (kernel.width = 3 ∧ kernel.height = 3) ∧
      flag.values = [",".intercalate (kernel.values.map Binary64.text)]
  else ∀ number ∈ flag.numbers, Text.Figures number

variable {used : Kernel → Prop} {name : String} {values : List String}
  {complete : arity? name = some values.length}

theorem sound_other (other : name ∉ numericFlags) : Sound used ⟨name, values, complete⟩ := by
  have apart : name ≠ "-convolve" := by
    rintro rfl
    exact other (by decide)
  have none : numbers ⟨name, values, complete⟩ = [] := if_neg (by simpa using other)
  rw [Sound, if_neg apart, none]
  exact List.forall_mem_nil _

theorem sound_figures (apart : name ≠ "-convolve")
    (figures : ∀ value ∈ values, ∀ number ∈ Text.splitAll 'x' value.toList, Text.Figures number) :
    Sound used ⟨name, values, complete⟩ := by
  rw [Sound, if_neg apart, numbers]
  split
  · rw [List.forall_mem_flatMap]
    exact figures
  · exact List.forall_mem_nil _

theorem numbers_convolve {flag : Flag} {kernel : Kernel} (named : flag.name = "-convolve")
    (written : flag.values = [",".intercalate (kernel.values.map Binary64.text)])
    (nine : kernel.values.length = 9) : flag.numbers = kernel.values.map (·.text.toList) := by
  have filled : kernel.values ≠ [] := List.ne_nil_of_length_pos (by omega)
  rw [numbers, if_pos (by rw [named]; decide), if_pos named, written, List.flatMap_singleton,
    Kernel.splitAll_texts filled]

end Flag

end Grammar

theorem figures_sigma {x : Binary64} (finite : x.isFinite = true) :
    ∀ number ∈ Text.splitAll 'x' (s!"0x{x.text}").toList, Text.Figures number := by
  have spelled : (s!"0x{x.text}").toList = ['0'] ++ 'x' :: x.text.toList := by
    simp only [String.toList_append, toString]
    rfl
  rw [spelled]
  exact Text.figures_pair (.positive (Text.magnitude_toDigits 0))
    (Binary64.figures_text_iff.mpr finite)

theorem figures_percent (percent : Int) :
    ∀ number ∈ Text.splitAll 'x' (s!"{percent}x0").toList, Text.Figures number := by
  have spelled : (s!"{percent}x0").toList = (toString percent).toList ++ 'x' :: ['0'] := by
    simp only [String.toList_append]
    rfl
  rw [spelled]
  exact Text.figures_pair (Text.figures_int percent) (.positive (Text.magnitude_toDigits 0))

open Grammar

variable {used : Kernel → Prop}

theorem Effect.sound_flags {effect : Effect}
    (finite : effect.kernel? = none → ∀ x ∈ effect.parameters, x.isFinite = true)
    (kernels : ∀ kernel ∈ effect.kernel?, used kernel ∧ kernel.width = 3 ∧ kernel.height = 3) :
    ∀ flag ∈ effect.flags, flag.Sound used := by
  cases effect <;> simp only [flags, List.forall_mem_cons, List.not_mem_nil, false_imp_iff,
    implies_true, and_true]
  case gamma correction =>
    apply Flag.sound_figures (by decide)
    have figures := Binary64.figures_text_iff.mpr (finite rfl correction (by simp [parameters]))
    simpa using Text.figures_alone figures
  case blur sigma =>
    apply Flag.sound_figures (by decide)
    simpa using figures_sigma (finite rfl sigma (by simp [parameters]))
  case brightness shift =>
    apply Flag.sound_figures (by decide)
    simpa using figures_percent (shift.round?.getD 0)
  case convolve kernel =>
    obtain ⟨inUse, square⟩ := kernels kernel rfl
    exact ⟨kernel, inUse, square, rfl⟩
  case colorize color => exact ⟨Flag.sound_other (by decide), Flag.sound_other (by decide)⟩
  all_goals exact Flag.sound_other (by decide)

namespace Alteration
variable {palette : Palette} {own : Size} {file : ScratchFile} {source : Source} {body : Units}

theorem sound_units {edit : Alteration Image}
    (finite : edit.kernel? = none → ∀ x ∈ edit.parameters, x.isFinite = true)
    (kernels : ∀ kernel ∈ edit.kernel?, used kernel ∧ kernel.width = 3 ∧ kernel.height = 3)
    (brought : ∀ _ ∈ edit.operand?, ∀ flag ∈ body.flags, flag.Sound used) :
    ∀ flag ∈ (edit.units palette own file source body).flags, flag.Sound used := by
  cases edit <;> simp only [units, Units.flags, Units.flags_append, Units.flags_row,
    List.forall_mem_append, List.forall_mem_cons, List.not_mem_nil, List.nil_append, false_imp_iff,
    implies_true, and_true]
  case resize size filter =>
    refine ⟨Flag.sound_other (by decide), ?_⟩
    cases filter.toolName? with
    | none => exact List.forall_mem_nil _
    | some name => exact List.forall_mem_singleton.mpr (Flag.sound_other (by decide))
  case rotate angle background =>
    constructor
    · cases background with
      | none => exact List.forall_mem_nil _
      | some color => exact List.forall_mem_singleton.mpr (Flag.sound_other (by decide))
    · apply Flag.sound_figures (by decide)
      have figures := Binary64.figures_text_iff.mpr (finite rfl angle (by simp [parameters]))
      simpa using Text.figures_alone figures
  case usePalette target =>
    split
    · exact List.forall_mem_nil _
    · simp only [List.forall_mem_cons, List.not_mem_nil, false_imp_iff, implies_true, and_true]
      exact ⟨Flag.sound_other (by decide), Flag.sound_other (by decide)⟩
  case paste other start alpha =>
    refine ⟨brought other rfl, ⟨Flag.sound_other (by decide), ?_⟩, Flag.sound_other (by decide)⟩
    split
    · exact List.forall_mem_singleton.mpr (Flag.sound_other (by decide))
    · simp only [List.forall_mem_cons, List.not_mem_nil, false_imp_iff, implies_true, and_true]
      exact ⟨Flag.sound_other (by decide), Flag.sound_other (by decide)⟩
  case applyMask mask =>
    exact ⟨⟨brought mask rfl, Flag.sound_other (by decide)⟩, Flag.sound_other (by decide),
      Flag.sound_other (by decide), Flag.sound_other (by decide)⟩
  case fill content => exact ⟨Flag.sound_other (by decide), Flag.sound_other (by decide)⟩
  case effect chosen => exact Effect.sound_flags finite kernels
  case addLayer other => exact brought other rfl
  all_goals exact Flag.sound_other (by decide)

end Alteration

end Retouch
