import Retouch.Proofs.Image.OneCall
import Retouch.Proofs.Tool.Answer
import Retouch.Proofs.Tool.Banner
import Retouch.Proofs.Tool.Calls

/-!
What it takes for the tool to be taken into use. The directories that are named have to be there,
and if the version matters, the reply to one call decides.
-/
namespace Retouch

/-- A tool that answers these questions alike can take the place of the tool at hand. -/
def Act.AsksOnly {α : Type} (act : Act α) (world : World) (questions : List Question) : Prop :=
  ∀ tool : Responder, (∀ question ∈ questions,
      tool question.1 question.2 = world.tool question.1 question.2) →
    act (world.withTool tool) = ((act world).1, (act world).2.withTool tool)

theorem Act.asksOnly_nil {α : Type} {act : Act α} {world : World} {result : Except Cause α}
    (settled : ∀ tool : Responder, act (world.withTool tool) = (result, world.withTool tool)) :
    act.AsksOnly world [] := by
  intro tool _
  have here : act world = (result, world) := settled world.tool
  rw [settled tool, here]

namespace Tool

namespace Settings
variable {settings : Settings} {files : Files} {what directory : String}

/-- A directory that is named is there. -/
def Found (files : Files) (named : Option String) : Prop :=
  ∀ directory ∈ named, files.isDirectory directory = true

structure InPlace (settings : Settings) (files : Files) : Prop where
  programs : Found files settings.binDir
  temporary : Found files settings.tempDir

/-- The first directory that is not there, under the name it is complained about. -/
inductive Misplaces (settings : Settings) (files : Files) : String → String → Prop
  | programs {directory : String} (named : settings.binDir = some directory)
      (absent : files.isDirectory directory = false) : Misplaces settings files "bin_dir" directory
  | temporary {directory : String} (programs : Found files settings.binDir)
      (named : settings.tempDir = some directory) (absent : files.isDirectory directory = false) :
      Misplaces settings files "temp_dir" directory

theorem found_or_absent (files : Files) (named : Option String) : Found files named ∨
    ∃ directory, named = some directory ∧ files.isDirectory directory = false := by
  cases named with
  | none => exact .inl fun _ named => nomatch named
  | some directory =>
    cases there : files.isDirectory directory with
    | true =>
      exact .inl fun other same => by
        obtain rfl := Option.some.inj same
        exact there
    | false => exact .inr ⟨directory, rfl, there⟩

theorem inPlace_or_misplaces (settings : Settings) (files : Files) :
    settings.InPlace files ∨ ∃ what directory, settings.Misplaces files what directory := by
  rcases found_or_absent files settings.binDir with programs | ⟨_, named, absent⟩
  · rcases found_or_absent files settings.tempDir with temporary | ⟨_, named, absent⟩
    · exact .inl ⟨programs, temporary⟩
    · exact .inr ⟨_, _, .temporary programs named absent⟩
  · exact .inr ⟨_, _, .programs named absent⟩

theorem check_found {named : Option String} (found : Found files named) :
    validate.check files what named = .ok () := by
  cases named with
  | none => rfl
  | some directory => exact if_pos (found directory rfl)

theorem check_absent (absent : files.isDirectory directory = false) :
    validate.check files what (some directory) =
      .error (.invalidArgument s!"{what} '{directory}' is not a directory") :=
  if_neg (by rw [absent]; decide)

theorem validate_inPlace (inPlace : settings.InPlace files) : settings.validate files = .ok () := by
  unfold validate
  rw [check_found inPlace.programs, check_found inPlace.temporary]
  rfl

theorem validate_misplaces (misplaces : settings.Misplaces files what directory) :
    settings.validate files =
      .error (.invalidArgument s!"{what} '{directory}' is not a directory") := by
  unfold validate
  cases misplaces with
  | programs named absent =>
    rw [named, check_absent absent]
    rfl
  | temporary programs named absent =>
    rw [check_found programs, named, check_absent absent]
    rfl

end Settings

/-- The major numbers decide, where they are the same the minor ones, and then the patches. -/
def Version.AtLeast (version oldest : Version) : Prop :=
  oldest.major < version.major ∨ oldest.major = version.major ∧
    (oldest.minor < version.minor ∨ oldest.minor = version.minor ∧ oldest.patch ≤ version.patch)

theorem Version.order_ne_lt {version oldest : Version} :
    version.order oldest ≠ .lt ↔ version.AtLeast oldest := by
  simp only [order, AtLeast, ne_eq, Ordering.then_eq_lt, Std.compare_eq_lt, Std.compare_eq_iff_eq,
    UInt32.lt_iff_toNat_lt, UInt32.le_iff_toNat_le, ← UInt32.toNat_inj]
  omega

namespace Kit

/-- What comes of a reply to the question for the version. -/
inductive Judged (toolchain : Toolchain) : Reply → Except Cause Unit → Prop
  | unstarted (cause : Cause) : Judged toolchain (.unstarted cause) (.error cause)
  | refused (cause : Cause) : Judged toolchain (.refused cause) (.error cause)
  | failed {output : Output} {changes : List Change} (failed : output.success = false) :
      Judged toolchain (.ran output changes)
        (.error (.externalTool output.status (Text.trim output.report)))
  | silent {output : Output} {changes : List Change} (succeeded : output.success = true)
      (silent : ∀ version, ¬Version.Stated output.text.toList version) :
      Judged toolchain (.ran output changes)
        (.error (.precondition "ImageMagick is not installed"))
  | old {output : Output} {changes : List Change} {version : Version}
      (succeeded : output.success = true) (stated : Version.Stated output.text.toList version)
      (older : ¬version.AtLeast toolchain.oldest) :
      Judged toolchain (.ran output changes)
        (.error (.unsupported .toolchain
          s!"ImageMagick {version.text} ({toolchain.name} requires {toolchain.oldest.text} or higher)"))
  | admitted {output : Output} {changes : List Change} {version : Version}
      (succeeded : output.success = true) (stated : Version.Stated output.text.toList version)
      (recent : version.AtLeast toolchain.oldest) : Judged toolchain (.ran output changes) (.ok ())

variable {settings : Settings} {world : World} {toolchain : Toolchain}

theorem require_recent {version : Version} (recent : version.AtLeast toolchain.oldest) :
    require toolchain version = .ok () :=
  if_neg (by simpa using Version.order_ne_lt.mpr recent)

theorem require_old {version : Version} (older : ¬version.AtLeast toolchain.oldest) :
    require toolchain version = .error (tooOld toolchain version) :=
  if_pos (by simpa using mt Version.order_ne_lt.mp older)

theorem require_eq_ok {version : Version} :
    require toolchain version = .ok () ↔ version.AtLeast toolchain.oldest := by
  refine ⟨fun accepted => ?_, require_recent⟩
  by_contra older
  rw [require_old older] at accepted
  cases accepted

def judge (toolchain : Toolchain) (reply : Reply) : Except Cause Unit :=
  reply.verdict >>= fun output => Version.ofBanner output.text >>= require toolchain

theorem judge_ran {output : Output} {changes : List Change} (succeeded : output.success = true) :
    judge toolchain (.ran output changes) =
      Version.ofBanner output.text >>= require toolchain := by
  have passed : (Reply.ran output changes).verdict = .ok output := if_pos succeeded
  rw [judge, passed]
  rfl

theorem judge_stated {output : Output} {changes : List Change} {version : Version}
    (succeeded : output.success = true) (stated : Version.Stated output.text.toList version) :
    judge toolchain (.ran output changes) = require toolchain version := by
  rw [judge_ran succeeded, Version.ofBanner_eq_ok.mpr stated]
  rfl

theorem Judged.judge_eq {reply : Reply} {result : Except Cause Unit}
    (judged : Judged toolchain reply result) : judge toolchain reply = result := by
  cases judged with
  | unstarted cause => rfl
  | refused cause => rfl
  | @failed output changes failed =>
    have stopped : (Reply.ran output changes).verdict =
        .error (.externalTool output.status (Text.trim output.report)) :=
      if_neg (by rw [failed]; decide)
    rw [judge, stopped]
    rfl
  | silent succeeded silent =>
    rw [judge_ran succeeded, Version.ofBanner_silent silent]
    rfl
  | old succeeded stated older =>
    rw [judge_stated succeeded stated]
    exact require_old older
  | admitted succeeded stated recent =>
    rw [judge_stated succeeded stated]
    exact require_recent recent

theorem exists_judged (toolchain : Toolchain) (reply : Reply) :
    ∃ result, Judged toolchain reply result := by
  rcases reply with ⟨output, changes⟩ | cause | cause
  · cases succeeded : output.success with
    | false => exact ⟨_, .failed succeeded⟩
    | true =>
      by_cases stated : ∃ version, Version.Stated output.text.toList version
      · obtain ⟨version, stated⟩ := stated
        by_cases recent : version.AtLeast toolchain.oldest
        · exact ⟨_, .admitted succeeded stated recent⟩
        · exact ⟨_, .old succeeded stated recent⟩
      · exact ⟨_, .silent succeeded (not_exists.mp stated)⟩
  · exact ⟨_, .refused cause⟩
  · exact ⟨_, .unstarted cause⟩

theorem judged_iff {reply : Reply} {result : Except Cause Unit} :
    Judged toolchain reply result ↔ judge toolchain reply = result := by
  refine ⟨Judged.judge_eq, ?_⟩
  rintro rfl
  obtain ⟨result, judged⟩ := exists_judged toolchain reply
  exact judged.judge_eq ▸ judged

/-- The call for the version. -/
abbrev inquiry (settings : Settings) : Argv := settings.convert ++ ["-version"]

theorem checkVersion_judge (kit : Kit) (toolchain : Toolchain) (world : World) :
    kit.checkVersion toolchain world =
      (judge toolchain (world.tool world.calls kit.versionCall),
        (World.run kit.versionCall world).2) := by
  rw [checkVersion_eq, judge, World.run_eq]
  cases (world.tool world.calls kit.versionCall).verdict <;> rfl

theorem prepare_misplaced {what directory : String}
    (misplaces : settings.Misplaces world.files what directory) : prepare settings world =
      (.error (.invalidArgument s!"{what} '{directory}' is not a directory"), world) := by
  rw [prepare_eq, Settings.validate_misplaces misplaces]

theorem prepare_unchecked (inPlace : settings.InPlace world.files)
    (unchecked : settings.checkVersion = false) :
    prepare settings world = (.ok (ofSettings settings world.systemTemp), world) := by
  rw [prepare_eq, Settings.validate_inPlace inPlace, unchecked]
  rfl

theorem prepare_checked (inPlace : settings.InPlace world.files)
    (checked : settings.checkVersion = true) : prepare settings world =
      ((judge settings.toolchain (world.tool world.calls (inquiry settings))).map fun _ =>
        ofSettings settings world.systemTemp, (World.run (inquiry settings) world).2) := by
  have asked := checkVersion_judge (ofSettings settings world.systemTemp) settings.toolchain world
  have same : (ofSettings settings world.systemTemp).versionCall = inquiry settings := rfl
  rw [same] at asked
  rw [prepare_eq, Settings.validate_inPlace inPlace, checked]
  simp only [if_true, asked]
  cases judge settings.toolchain (world.tool world.calls (inquiry settings)) <;> rfl

theorem prepare_asks_once (inPlace : settings.InPlace world.files)
    (checked : settings.checkVersion = true) :
    (prepare settings).AsksOnly world [(world.calls, inquiry settings)] := by
  intro tool agrees
  have same : tool world.calls (inquiry settings) = world.tool world.calls (inquiry settings) :=
    agrees _ (List.mem_singleton_self _)
  have replaced := @prepare_checked settings (world.withTool tool) inPlace checked
  rw [replaced, prepare_checked inPlace checked, World.run_withTool same]
  simp only [World.withTool, same]

/-- The gate for the tool: where the directories that are named are there and the version matters,
it is asked for once, and the tool is taken into use when it states one that is recent enough. -/
theorem version_gate (settings : Settings) (world : World) :
    let kit := ofSettings settings world.systemTemp
    let argv := settings.convert ++ ["-version"]
    let reply := world.tool world.calls argv
    let prepared := prepare settings world
    (settings.InPlace world.files ∨
      ∃ what directory, settings.Misplaces world.files what directory) ∧
    (∀ what directory, settings.Misplaces world.files what directory →
      prepared = (.error (.invalidArgument s!"{what} '{directory}' is not a directory"), world) ∧
        (prepare settings).AsksOnly world []) ∧
    (settings.InPlace world.files → settings.checkVersion = false →
      prepared = (.ok kit, world) ∧ (prepare settings).AsksOnly world []) ∧
    (settings.InPlace world.files → settings.checkVersion = true →
      (prepare settings).AsksOnly world [(world.calls, argv)] ∧
        prepared.2 = (World.execute argv world).2 ∧
        prepared.2.calls = world.calls ++ world.entry argv ∧
        (∀ result, prepared.1 = result.map (fun _ => kit) ↔
          Judged settings.toolchain reply result) ∧
        ∀ (version : Version) (before gap after : List Char) (output : Output)
          (changes : List Change), reply = .ran output changes → output.success = true →
          output.text.toList =
            before ++ "ImageMagick ".toList ++ (gap ++ (version.text.toList ++ after)) →
          ¬"ImageMagick ".toList <:+: before → (∀ c ∈ gap, Text.isBlank c = true) →
          Version.EndsVersion after →
          Version.ofBanner output.text = .ok version ∧
            (prepared.1 = .ok kit ↔ version.AtLeast settings.toolchain.oldest)) := by
  intro kit argv reply prepared
  refine ⟨settings.inPlace_or_misplaces world.files, ?misplaced, ?unchecked, ?checked⟩
  case misplaced =>
    intro what directory misplaces
    have refused (tool : Responder) : prepare settings (world.withTool tool) =
        (.error (.invalidArgument s!"{what} '{directory}' is not a directory"),
          world.withTool tool) := prepare_misplaced misplaces
    exact ⟨refused world.tool, Act.asksOnly_nil refused⟩
  case unchecked =>
    intro inPlace unchecked
    have made (tool : Responder) : prepare settings (world.withTool tool) =
        (.ok kit, world.withTool tool) := prepare_unchecked inPlace unchecked
    exact ⟨made world.tool, Act.asksOnly_nil made⟩
  case checked =>
    intro inPlace checked
    have made : prepared = ((judge settings.toolchain reply).map fun _ => kit,
        (World.run argv world).2) := prepare_checked inPlace checked
    refine ⟨prepare_asks_once inPlace checked, ?_, ?_, ?_, ?_⟩
    · rw [made, World.run_eq]
    · rw [made, World.run_calls]
    · intro result
      rw [made, judged_iff]
      cases judge settings.toolchain reply <;> cases result <;> simp [Except.map]
    · intro version before gap after output changes ran succeeded shown first blanks ended
      have stated : Version.Stated output.text.toList version :=
        shown ▸ Version.stated_text version first blanks ended
      refine ⟨Version.ofBanner_eq_ok.mpr stated, ?_⟩
      rw [made, ran, judge_stated succeeded stated, ← require_eq_ok]
      cases require settings.toolchain version <;> simp [Except.map]

/-- A tool that is recent enough, asked for its version or not, and programs that are looked for in
a directory that is not there. -/
theorem version_gate_recent :
    let banner := "Version: ImageMagick 6.9.11-60 Q16 x86_64\n"
    let world : World := { tool := fun _ _ => .ran (.ok (Text.Utf8.encode banner)) [] }
    let kit : Kit := ⟨["convert"], ["identify"], "systmp"⟩
    (prepare {} world).1 = .ok kit ∧
      (prepare {} world).2.calls = [["convert", "-version"]] ∧
      Judged .imagemagick6 (world.tool [] ["convert", "-version"]) (.ok ()) ∧
      prepare { checkVersion := false } world = (.ok kit, world) ∧
      prepare { binDir := some "bin" } world =
        (.error (.invalidArgument "bin_dir 'bin' is not a directory"), world) := by
  intro banner world kit
  have nowhere : ∀ directory ∈ (none : Option String), world.files.isDirectory directory = true :=
    fun _ named => nomatch named
  obtain ⟨-, -, -, checked⟩ := version_gate {} world
  obtain ⟨-, -, calls, judged, shown⟩ := checked ⟨nowhere, nowhere⟩ rfl
  have text : (Output.ok (Text.Utf8.encode banner)).text.toList = "Version: ".toList ++
      "ImageMagick ".toList ++ ([] ++ ((Version.mk 6 9 11).text.toList ++
        "-60 Q16 x86_64\n".toList)) := by
    rw [Version.text_chars]
    decide +kernel
  obtain ⟨read, accepted⟩ := shown ⟨6, 9, 11⟩ "Version: ".toList [] "-60 Q16 x86_64\n".toList _ []
    rfl rfl text (by decide +kernel) (List.forall_mem_nil _) (.inr (.inl rfl))
  have recent : (Version.mk 6 9 11).AtLeast ⟨6, 2, 9⟩ := .inr ⟨rfl, .inl (by decide)⟩
  have admitted : (prepare {} world).1 = .ok kit := accepted.mpr recent
  obtain ⟨-, misplaced, -, -⟩ := version_gate { binDir := some "bin" } world
  obtain ⟨-, -, unchecked, -⟩ := version_gate { checkVersion := false } world
  exact ⟨admitted, calls, (judged _).mp admitted, (unchecked ⟨nowhere, nowhere⟩ rfl).1,
    (misplaced _ _ (.programs rfl (by decide))).1⟩

end Kit

end Tool

end Retouch
