import Retouch.Proofs.CommandLine.Outline
import Retouch.Proofs.Image.Queries

/-!
What a job asks before its save is never the save itself. A size is asked of an image that has fewer
tokens than the one to be saved, and the file is asked about in a format that ends in a line feed,
which no save of a file with such a name has.
-/
namespace Retouch

/-- A format that is asked for is trimmed. -/
theorem Save.resolveFormat_ends {asked : Option String} {path format : String}
    (bare : Path.extension? path = none)
    (resolved : resolveFormat asked path (some path) = .ok format) :
    format.toList.getLast? ≠ some '\n' := by
  unfold resolveFormat at resolved
  simp only [bare, Option.bind_none, Option.bind_some] at resolved
  intro ends
  split at resolved
  next trimmed found =>
    obtain rfl := Except.ok.inj resolved
    have wanted : asked.bind (fun s => nonempty? (Text.trim s)) = some trimmed := by
      simpa using found
    obtain ⟨text, -, filled⟩ := Option.bind_eq_some_iff.mp wanted
    have same : trimmed = Text.trim text := by
      unfold nonempty? at filled
      split at filled
      · cases filled
      · exact (Option.some.inj filled).symm
    rw [same] at ends
    simp only [Text.lowercase, Text.trim, String.toList_map, String.toList_ofList,
      List.getLast?_map, Option.map_eq_some_iff] at ends
    obtain ⟨c, last, lower⟩ := ends
    obtain rfl := Text.eq_of_toLower lower (by decide)
    cases Text.getLast?_dropEnd last
  next => cases resolved

theorem Image.plan_format {kit : Tool.Kit} {image : Image} {output : String}
    {options : Save.Options} {planned : Save.Plan}
    (settled : image.plan kit (some output) options = .ok planned) :
    Save.resolveFormat options.format planned.destination image.source = .ok planned.format := by
  have chosen : some output = some planned.destination := (plan_ok settled).1
  obtain rfl := Option.some.inj chosen
  exact (Save.plan_argv settled).1

/-- With one program for everything, a file named like its subcommand makes the calls alike, but for
the format. -/
theorem Image.unsaved_file {settings : Tool.Settings} {temp path output format : String}
    {image : Image} {options : Save.Options} {planned : Save.Plan} (input : image.input = [path])
    (source : image.source = some path)
    (settled : image.plan (.ofSettings settings temp) (some output) options = .ok planned)
    (ends : format.toList.getLast? = some '\n') :
    planned.argv ≠ (Tool.Kit.ofSettings settings temp).identifyCall format path := by
  intro same
  have formatted := plan_format settled
  rw [plan_argv settled, Query.argv, input, Save.Plan.tail] at same
  cases chosen : settings.toolchain with
  | imagemagick6 =>
    have lengths := congrArg List.length same
    simp [Tool.Kit.ofSettings, Tool.Settings.convert, Tool.Settings.identify, chosen,
      Tool.Kit.identifyCall] at lengths
    omega
  | imagemagick7 =>
    simp only [Tool.Kit.ofSettings, Tool.Settings.convert, Tool.Settings.identify, chosen,
      Tool.Kit.identifyCall, List.cons_append, List.nil_append, List.append_assoc,
      List.cons.injEq, true_and] at same
    obtain ⟨rfl, rest⟩ := same
    simp only [← List.append_assoc] at rest
    have tail :
        ["-format", planned.format, planned.destination] = ["-format", format, "identify"] :=
      List.append_inj_right' (rest.trans (List.nil_append _).symm) rfl
    simp only [List.cons.injEq, true_and, and_true] at tail
    obtain ⟨rfl, place⟩ := tail
    rw [place, source] at formatted
    exact Save.resolveFormat_ends rfl formatted ends

/-- A step that asks for the size appends something when it goes well. -/
theorem EditScript.Step.asking_cases (kit : Tool.Kit) (image : Image) (world : World)
    (step : Step) :
    (step.alteration : Alteration Image).asking kit image world = [] ∨
      (step.alteration : Alteration Image).asking kit image world = [.size image] ∧
        ∀ palette own file,
          (step.alteration : Alteration Image).appended palette own file ≠ [] := by
  have measuring : image.measuring kit world = [] ∨ image.measuring kit world = [.size image] := by
    unfold Image.measuring World.asked
    split
    · exact .inl rfl
    · split
      · exact .inr rfl
      · exact .inl rfl
  cases step <;> simp only [Step.alteration, Alteration.asking, true_or]
  case crop | fill => exact measuring.imp_right fun asked => ⟨asked, by simp⟩

theorem Alteration.tokens_apply {kit : Tool.Kit} {edit : Alteration Image} {image : Image}
    {world : World} {desk : Desk} (applied : edit.apply kit ⟨image, world⟩ = (.ok (), desk)) :
    desk.image.input = image.input ∧ desk.image.source = image.source ∧ ∃ palette own file,
      desk.image.tokens = image.tokens ++ edit.appended palette own file := by
  obtain ⟨size, sized⟩ := edit.sized_with (image.measure kit world).1 image
  rw [apply_eq, sized] at applied
  cases settled : edit.settle (edit.needs kit image world) { image with size } with
  | error cause =>
    rw [settled] at applied
    cases applied
  | ok out =>
    rw [settled] at applied
    cases applied
    obtain ⟨own, file, -, -, rfl⟩ := settle_ok settled
    exact ⟨rfl, rfl, image.palette, own, file, tokens_outcome own file _ edit⟩

namespace CommandLine

theorem onImage_ok {image edited : Image} {edit : Edit Unit} {world after : World}
    (done : onImage image edit world = (.ok edited, after)) :
    edit ⟨image, world⟩ = (.ok (), ⟨edited, after⟩) := by
  unfold onImage at done
  rcases ran : edit ⟨image, world⟩ with ⟨cause | _, desk⟩ <;> rw [ran] at done <;> cases done
  rfl

/-- The steps ask for sizes alone, each of an image with fewer tokens than the one they end with. -/
theorem applySteps_asked {kit : Tool.Kit} {steps : List EditScript.Step} {number : Nat}
    {image final : Image} {world after : World}
    (taken : applySteps kit image steps number world = (.ok final, after)) :
    final.input = image.input ∧ final.source = image.source ∧
      image.tokens.length ≤ final.tokens.length ∧ ∃ asked : List Image,
        world.Called kit (asked.map .size) after ∧
        ∀ earlier ∈ asked, earlier.tokens.length < final.tokens.length := by
  induction steps generalizing number image world with
  | nil =>
    cases taken
    exact ⟨rfl, rfl, Nat.le_refl _, [], .none rfl, by simp⟩
  | cons step rest ih =>
    rw [applySteps, Stepwise.bind_apply, Task.within] at taken
    rcases ran : onImage image (step.alteration.apply kit) world with
      ⟨account | edited, between⟩ <;> rw [ran] at taken
    · cases taken
    · obtain ⟨input, source, longer, asked, called, shorter⟩ := ih taken
      have applied := onImage_ok ran
      obtain ⟨input', source', palette, own, file, tokens⟩ := Alteration.tokens_apply applied
      have first : world.Called kit _ _ := step.alteration.called_apply image world
      rw [applied] at first
      have grown : edited.tokens.length = image.tokens.length + _ :=
        (congrArg List.length tokens).trans List.length_append
      rcases step.asking_cases kit image world with silent | ⟨sized, appends⟩
      · rw [silent] at first
        exact ⟨input.trans input', source.trans source', by omega, asked, first.trans called,
          shorter⟩
      · rw [sized] at first
        have more := List.length_pos_iff.mpr (appends palette own file)
        refine ⟨input.trans input', source.trans source', by omega, image :: asked,
          first.trans called, ?_⟩
        intro earlier member
        rcases List.mem_cons.mp member with rfl | later
        · omega
        · exact shorter earlier later

theorem openFile_ok {kit : Tool.Kit} {path : String} {world after : World} {image : Image}
    (opened : Image.openFile kit path world = (.ok image, after)) :
    image.input = [path] ∧ image.source = some path := by
  rw [Image.openFile_eq] at opened
  split at opened
  · obtain ⟨palette, frames, -, rfl⟩ := Image.examine_ok opened
    exact ⟨rfl, rfl⟩
  · cases opened

theorem mem_opening {kit : Tool.Kit} {path : String} {world : World} {query : Query}
    (member : query ∈ Image.opening kit path world) :
    query = .palette path ∨ query = .frames path := by
  have asked {world : World} {first : Query} (member : query ∈ world.asked kit first) :
      query = first := by
    unfold World.asked at member
    split at member
    · exact List.mem_singleton.mp member
    · cases member
  unfold Image.opening examining onceDone at member
  split at member
  · rcases List.mem_append.mp member with first | second
    · exact .inl (asked first)
    · split at second
      · exact .inr (asked second)
      · cases second
  · cases member

theorem sketch_unsaved {job : Job} {inputs : Inputs} {kit : Tool.Kit} {settings : Tool.Settings}
    {temp : String} {world after : World} {planned : Save.Plan}
    (prepared : kit = .ofSettings settings temp)
    (sketched : sketch job inputs kit world = (.ok planned, after)) :
    ∃ added, after.calls = world.calls ++ added ∧ planned.argv ∉ added := by
  obtain ⟨image, between, final, opened, taken, settled⟩ := sketch_ok sketched
  have looked : world.Called kit _ _ := Image.called_openFile job.input world
  rw [opened] at looked
  obtain ⟨input, source, -, asked, called, shorter⟩ := applySteps_asked taken
  obtain ⟨read, written⟩ := openFile_ok opened
  have apart {format : String} (ends : format.toList.getLast? = some '\n') :
      planned.argv ≠ kit.identifyCall format job.input := by
    rw [prepared] at settled ⊢
    exact Image.unsaved_file (input.trans read) (source.trans written) settled ends
  refine ⟨_, looked.trans called, fun member => ?_⟩
  rw [List.map_append, List.mem_append] at member
  rcases member with early | late
  · obtain ⟨query, there, same⟩ := List.mem_map.mp early
    rcases mem_opening there with rfl | rfl
    · exact apart rfl same.symm
    · exact apart rfl same.symm
  · obtain ⟨query, there, same⟩ := List.mem_map.mp late
    obtain ⟨earlier, found, rfl⟩ := List.mem_map.mp there
    have fewer := shorter earlier found
    rw [Image.plan_argv settled] at same
    have lengths := congrArg List.length same
    simp only [Query.argv, Save.Plan.tail, Image.tokens, List.length_append, List.length_cons,
      List.length_nil] at lengths fewer
    omega

end CommandLine

end Retouch
