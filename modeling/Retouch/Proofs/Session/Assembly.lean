import Retouch.Proofs.Image.Mention
import Retouch.Proofs.Session.Run

/-!
Out of what a command puts an image together: whole images that were there before, with the
temporary files they hold, tokens that name no such file, and one new temporary file at most.
-/
namespace Retouch.Session

/-- The token is no path of a temporary file that stays with an image, unless a file that is not
temporary has that path. -/
def Foreign (session : Session) (token : String) : Prop :=
  ∀ file : ScratchFile, file.Lasting session.kit.tempDir → token = file.path →
    session.world.files.isFile token = true ∧ file ∉ session.world.minted

theorem foreign_of_plain {session : Session} {token : String} (plain : Plain token) :
    session.Foreign token := by
  intro file lasting same
  rw [same] at plain
  exact (lasting.not_plain plain).elim

/-- Every token and every temporary file of the image has come in one of three ways. A part of the
image brings all of its tokens and all of its files. -/
structure Assembled (session : Session) (made : Option ScratchFile) (image : Image) : Prop where
  token : ∀ token ∈ image.tokens, session.Foreign token ∨
    (∃ part, session.Holds part ∧ token ∈ part.tokens ∧
      part.arguments.resources ⊆ image.arguments.resources) ∨
    ∃ file ∈ made, token = file.path ∧ file ∈ image.arguments.resources
  resource : ∀ file ∈ image.arguments.resources,
    (∃ part, session.Holds part ∧ file ∈ part.arguments.resources ∧ part.tokens ⊆ image.tokens) ∨
    file ∈ made ∧ file.path ∈ image.tokens

variable {session : Session} {made : Option ScratchFile} {before image : Image}

theorem assembled_extended (held : session.Holds before) (more : List String)
    (foreign : ∀ token ∈ more, session.Foreign token)
    (tokens : image.tokens = before.tokens ++ more)
    (resources : image.arguments.resources = before.arguments.resources) :
    session.Assembled made image where
  token token member := by
    rw [tokens, List.mem_append] at member
    rcases member with old | new
    · exact .inr (.inl ⟨before, held, old, by rw [resources]; exact List.Subset.refl _⟩)
    · exact .inl (foreign token new)
  resource file member := by
    rw [resources] at member
    exact .inl ⟨before, held, member, by rw [tokens]; exact List.subset_append_left _ _⟩

theorem assembled_same (held : session.Holds before) (tokens : image.tokens = before.tokens)
    (resources : image.arguments.resources = before.arguments.resources) :
    session.Assembled made image := by
  apply assembled_extended held []
  · simp
  · rw [tokens, List.append_nil]
  · exact resources

theorem assembled_kept (held : session.Holds image) : session.Assembled made image :=
  assembled_same held rfl rfl

theorem assembled_mask (held : session.Holds image) : session.Assembled made image.mask := by
  apply assembled_extended held ["-modulate", "100,0,100", "-alpha", "off"]
  · have plain : ∀ token ∈ ["-modulate", "100,0,100", "-alpha", "off"], Plain token := by decide
    exact fun token member => foreign_of_plain (plain token member)
  · simp [Image.mask, Image.push, Image.copy, Image.tokens, Arguments.push]
  · rfl

theorem assembled_file {path : String} (foreign : session.Foreign path) (source : Option String)
    (palette : Palette) (frames : UInt64) (notes : Metadata) :
    session.Assembled made (.ofFile path source palette frames notes) where
  token token member := by
    obtain rfl := List.mem_singleton.mp member
    exact .inl foreign
  resource file member := by cases member

theorem assembled_canvas {size : Size} {background : Option Color}
    (made' : Image.canvas size background = .ok image) : session.Assembled made image := by
  unfold Image.canvas at made'
  split at made'
  · cases made'
  · obtain rfl := Except.ok.inj made'
    refine ⟨fun token member => .inl (foreign_of_plain ?_), fun file member => by cases member⟩
    have blank : Plain s!"xc:{(background.getD .white).text}" :=
      (Fill.solid (background.getD .white)).plain_canvas size _ (by simp [Fill.canvas])
    have sized : Plain size.text := plain_of_unmarked size.unmarked_text
    simp only [Image.tokens, List.append_nil, List.mem_cons, List.not_mem_nil, or_false] at member
    rcases member with rfl | rfl | rfl
    · decide
    · exact sized
    · exact blank

theorem assembled_load (file : ScratchFile) (palette : Palette) (frames : UInt64) :
    session.Assembled (some file)
      ((Image.ofFile file.path none palette frames {}).attach file) where
  token token member := by
    obtain rfl := List.mem_singleton.mp member
    exact .inr (.inr ⟨file, rfl, rfl, List.mem_singleton_self file⟩)
  resource other member := by
    obtain rfl := List.mem_singleton.mp member
    exact .inr ⟨rfl, List.mem_singleton_self _⟩

theorem assembled_outcome (held : session.Holds before) (tokens : image.tokens = before.tokens)
    (resources : image.arguments.resources = before.arguments.resources)
    {edit : Alteration Image} (operands : ∀ other ∈ edit.operand?, session.Holds other)
    (own : Size) {file : ScratchFile}
    (filed : (edit.fileContent?).isSome = true → made = some file) :
    session.Assembled made (edit.outcome own file image) where
  token token member := by
    rw [Alteration.tokens_outcome, tokens, List.mem_append] at member
    rcases member with old | appended
    · refine .inr (.inl ⟨before, held, old, ?_⟩)
      rw [← resources]
      exact List.subset_append_left _ _
    · rcases Alteration.mem_appended appended with plain | ⟨other, operand, inner⟩ | ⟨some, rfl⟩
      · exact .inl (foreign_of_plain plain)
      · refine .inr (.inl ⟨other, operands other operand, inner, fun held member => ?_⟩)
        exact List.mem_append_right _ (Alteration.mem_adopted.mpr (.inl ⟨other, operand, member⟩))
      · refine .inr (.inr ⟨file, filed some, rfl, ?_⟩)
        exact List.mem_append_right _ (Alteration.mem_adopted.mpr (.inr ⟨some, rfl⟩))
  resource held' member := by
    rw [Alteration.tokens_outcome, tokens]
    rcases List.mem_append.mp member with old | adopted
    · rw [resources] at old
      exact .inl ⟨before, held, old, List.subset_append_left _ _⟩
    · rcases Alteration.mem_adopted.mp adopted with ⟨other, operand, inner⟩ | ⟨some, rfl⟩
      · refine .inl ⟨other, operands other operand, inner, fun token member => ?_⟩
        exact List.mem_append_right _ (Alteration.operand_mem operand member)
      · exact .inr ⟨filed some, List.mem_append_right _ (Alteration.file_mem some)⟩

end Retouch.Session
