import Retouch.Proofs.Session.Handle

/-!
Where images come from. `perform_yields` says once what the images are that are there after a
command; what holds of an image along every run is read off it.
-/
namespace Retouch

namespace Session

/-- What an image that is there after a command has come from, given the session before it. -/
inductive Yields (session : Session) : Image → Prop
  | learned {image after : Image} : session.Holds image →
      image.Learned session.kit session.world after → Yields session after
  | opened {path : String} {palette : Palette} {frames : UInt64} (notes : Metadata) :
      session.kit.Examined session.world.tool path palette frames →
      Yields session (.ofFile path (some path) palette frames notes)
  | loaded {bytes : Bytes} {file : ScratchFile} {palette : Palette} {frames : UInt64} :
      (World.mint session.kit.tempDir "im" bytes session.world).1 = .ok file →
      session.kit.Examined session.world.tool file.path palette frames →
      Yields session ((Image.ofFile file.path none palette frames {}).attach file)
  | canvas {size : Size} {background : Option Color} {image : Image} :
      Image.canvas size background = .ok image → Yields session image
  | copied {image : Image} : session.Holds image → Yields session image.copy
  | masked {image : Image} : session.Holds image → Yields session image.mask
  | edited {image before : Image} {edit : Alteration Image} (own : Size) {file : ScratchFile} :
      session.Holds image → image.Learned session.kit session.world before →
      (∀ other ∈ edit.operand?, session.Holds other) →
      (∀ content ∈ edit.fileContent?,
        (World.mint session.kit.tempDir "ip" content session.world).1 = .ok file) →
      Yields session (edit.outcome own file before)
  | rendered {image after : Image} : session.Holds image → image.Rendered after →
      Yields session after
  | noted {image : Image} (notes : Metadata) : session.Holds image →
      Yields session { image with notes }

theorem Yields.kept {session : Session} {image : Image} (held : session.Holds image) :
    session.Yields image := .learned held (.inl rfl)

theorem Made.yields {session : Session} {image : Image} (made : session.Made image) :
    session.Yields image := by
  cases made with
  | opened notes seen => exact .opened notes seen
  | loaded minted seen => exact .loaded minted seen
  | canvas blank => exact .canvas blank
  | copied held => exact .copied held
  | masked held => exact .masked held

theorem Becomes.yields {session : Session} {image after : Image} {command : Command}
    (held : session.Holds image) (becomes : session.Becomes image command after) :
    session.Yields after := by
  cases becomes with
  | learned _ learned => exact .learned held learned
  | edited own learned operands minted => exact .edited own held learned operands minted
  | saved _ => exact .rendered held (carried_rendered image command)
  | noted notes _ => exact .noted notes held

theorem perform_yields {session : Session} {command : Command} {image : Image}
    (held : (session.perform command).2.Holds image) : session.Yields image := by
  obtain ⟨name, held⟩ := held
  rcases perform_handle held with ⟨-, held⟩ | ⟨-, -, made⟩ | ⟨-, -, before, held, becomes⟩
  · exact .kept ⟨name, held⟩
  · exact made.yields
  · exact becomes.yields ⟨name, held⟩

/-- What the images yielded by a command have, if those before it had it, all images of a run have
that started with none. -/
theorem reaches_images (property : Image → Prop) {start : Session} (empty : start.images = [])
    (yielded : ∀ session image, Reaches start session →
      (∀ other, session.Holds other → property other) → session.Yields image → property image)
    {session : Session} (reached : Reaches start session) {image : Image}
    (held : session.Holds image) : property image := by
  induction reached generalizing image with
  | start =>
    obtain ⟨name, found⟩ := held
    rw [image?, empty] at found
    cases found
  | step command before ih =>
    exact yielded _ image before (fun other held => ih held) (perform_yields held)

end Session

end Retouch
