import Retouch.Proofs.Text.Reading

/-!
The grammar of a pending command line. A source comes first, then units: flags with all of their
values, and groups in parentheses, which have a source and units of their own. `tokens_inj` says
that tokens can be read in one way only, though a path can be any token, also a parenthesis.
-/
namespace Retouch.Grammar

def bareFlags : List String := ["-flop", "-flip", "-strip", "-coalesce", "-composite", "-negate"]

def keyedFlags : List String :=
  ["-crop", "-resize", "-filter", "-background", "-rotate", "-interlace", "-profile", "-type",
    "-colorspace", "-geometry", "-compose", "-define", "-modulate", "-alpha", "-delete", "-gamma",
    "-fill", "-colorize", "-sharpen", "-gaussian-blur", "-brightness-contrast", "-convolve"]

def arity? (name : String) : Option Nat :=
  if bareFlags.contains name then some 0
  else if keyedFlags.contains name then some 1
  else none

structure Flag where
  name : String
  values : List String
  complete : arity? name = some values.length
deriving DecidableEq

inductive Source
  | file (path : String)
  | canvas (size : Size) (fill : Fill)
deriving DecidableEq

def Source.tokens : Source → List String
  | file path => [path]
  | canvas size fill => fill.canvas size

inductive Units
  | done
  | flag (flag : Flag) (rest : Units)
  | group (source : Source) (body rest : Units)
deriving DecidableEq

namespace Units

@[simp] def tokens : Units → List String
  | done => []
  | flag first rest => first.name :: first.values ++ rest.tokens
  | group source body rest => "(" :: source.tokens ++ body.tokens ++ ")" :: rest.tokens

def append : Units → Units → Units
  | done, later => later
  | flag first rest, later => flag first (rest.append later)
  | group source body rest, later => group source body (rest.append later)

instance : Append Units := ⟨append⟩

@[simp] theorem done_append (later : Units) : done ++ later = later := rfl

@[simp] theorem flag_append (first : Flag) (rest later : Units) :
    flag first rest ++ later = flag first (rest ++ later) := rfl

@[simp] theorem group_append (source : Source) (body rest later : Units) :
    group source body rest ++ later = group source body (rest ++ later) := rfl

@[simp] theorem append_done (units : Units) : units ++ done = units := by
  induction units with
  | done => rfl
  | flag first rest ih => exact congrArg (flag first) ih
  | group source body rest _ ih => exact congrArg (group source body) ih

@[simp] theorem tokens_append (units later : Units) :
    (units ++ later).tokens = units.tokens ++ later.tokens := by
  induction units with
  | done => rfl
  | flag first rest ih => simp [ih]
  | group source body rest _ ih => simp [ih]

end Units

theorem Flag.name_ne {flag : Flag} {token : String} (unknown : arity? token = none) :
    flag.name ≠ token := by
  intro same
  have known := flag.complete
  rw [same, unknown] at known
  cases known

theorem Flag.inj {flag other : Flag} {rest rest' : List String}
    (same : flag.name :: flag.values ++ rest = other.name :: other.values ++ rest') :
    flag = other ∧ rest = rest' := by
  obtain ⟨name, values, complete⟩ := flag
  obtain ⟨name', values', complete'⟩ := other
  simp only [List.cons_append, List.cons.injEq] at same
  obtain ⟨rfl, same⟩ := same
  have lengths : values.length = values'.length := by
    rw [complete] at complete'
    exact Option.some.inj complete'
  obtain ⟨rfl, rfl⟩ := List.append_inj same lengths
  exact ⟨rfl, rfl⟩

/-- No such list goes on with the size of a canvas. -/
def NoSize (tokens : List String) : Prop :=
  ∀ size : Size, tokens.head? ≠ some size.text

theorem noSize_cons {token : String} {rest : List String}
    (first : ∀ c ∈ token.toList.head?, c.isDigit = false) : NoSize (token :: rest) := by
  intro size same
  obtain rfl := Option.some.inj same
  rw [Size.text_chars] at first
  obtain ⟨digit, digits, written⟩ := List.exists_cons_of_ne_nil
    (Nat.toDigits_ne_nil : Nat.toDigits 10 size.width.toNat ≠ [])
  have told := first digit (by rw [written]; rfl)
  rw [Text.isDigit_of_mem (n := size.width.toNat) (by rw [written]; simp)] at told
  cases told

theorem Source.tokens_append_inj {source other : Source} {rest rest' : List String}
    (follows : NoSize rest) (follows' : NoSize rest')
    (same : source.tokens ++ rest = other.tokens ++ rest') : source = other ∧ rest = rest' := by
  cases source with
  | file path =>
    cases other with
    | file path' =>
      simp only [Source.tokens, List.cons_append, List.nil_append, List.cons.injEq] at same
      exact ⟨by rw [same.1], same.2⟩
    | canvas size fill =>
      simp only [Source.tokens, Fill.canvas, List.cons_append, List.nil_append,
        List.cons.injEq] at same
      exact absurd (by rw [same.2]; rfl) (follows size)
  | canvas size fill =>
    cases other with
    | file path =>
      simp only [Source.tokens, Fill.canvas, List.cons_append, List.nil_append,
        List.cons.injEq] at same
      exact absurd (by rw [← same.2]; rfl) (follows' size)
    | canvas size' fill' =>
      obtain ⟨rfl, rfl, rfl⟩ := Fill.canvas_append_inj same
      exact ⟨rfl, rfl⟩

theorem Flag.dash (flag : Flag) : flag.name.toList.head? = some '-' := by
  have every : ∀ name ∈ bareFlags ++ keyedFlags, name.toList.head? = some '-' := by decide
  have complete := flag.complete
  apply every
  rw [List.mem_append]
  unfold arity? at complete
  split at complete
  next bare => exact .inl (List.contains_iff_mem.mp bare)
  next =>
    split at complete
    next keyed => exact .inr (List.contains_iff_mem.mp keyed)
    next => cases complete

/-- Where units end: nothing comes after them, or the end of the group they are in. -/
def Closed (rest : List String) : Prop := rest = [] ∨ rest.head? = some ")"

theorem Closed.noSize {rest : List String} (closed : Closed rest) : NoSize rest := by
  cases rest with
  | nil =>
    intro size same
    cases same
  | cons token later =>
    rcases closed with empty | ended
    · cases empty
    · obtain rfl := Option.some.inj ended
      exact noSize_cons (by simp)

namespace Units

theorem noSize {rest : List String} (units : Units) (closed : Closed rest) :
    NoSize (units.tokens ++ rest) := by
  cases units with
  | done => exact closed.noSize
  | flag first later =>
    apply noSize_cons
    rw [first.dash]
    intro c same
    cases same
    rfl
  | group source body later => exact noSize_cons (by simp)

theorem tokens_append_inj {units other : Units} {rest rest' : List String} (closed : Closed rest)
    (closed' : Closed rest') (same : units.tokens ++ rest = other.tokens ++ rest') :
    units = other ∧ rest = rest' := by
  have notFlag (flag : Flag) {tokens more : List String} (ended : Closed tokens)
      (equal : tokens = flag.name :: more) : False := by
    rcases ended with rfl | ended
    · cases equal
    · rw [equal] at ended
      exact flag.name_ne (by decide) (Option.some.inj ended)
  have notGroup {tokens more : List String} (ended : Closed tokens)
      (equal : tokens = "(" :: more) : False := by
    rcases ended with rfl | ended
    · cases equal
    · rw [equal] at ended
      exact absurd (Option.some.inj ended) (by decide)
  induction units generalizing other rest rest' with
  | done =>
    cases other with
    | done => exact ⟨rfl, same⟩
    | flag first later => exact (notFlag first closed same).elim
    | group source body later => exact (notGroup closed same).elim
  | flag first later ih =>
    cases other with
    | done => exact (notFlag first closed' same.symm).elim
    | flag first' later' =>
      simp only [tokens, List.append_assoc, List.cons_append] at same
      obtain ⟨rfl, others⟩ := Flag.inj same
      obtain ⟨rfl, rfl⟩ := ih closed closed' others
      exact ⟨rfl, rfl⟩
    | group source body later' =>
      exact (first.name_ne (by decide) (List.cons.inj same).1).elim
  | group source body later ihBody ih =>
    cases other with
    | done => exact (notGroup closed' same.symm).elim
    | flag first later' =>
      exact (first.name_ne (by decide) (List.cons.inj same).1.symm).elim
    | group source' body' later' =>
      simp only [tokens, List.cons_append, List.append_assoc, List.cons.injEq, true_and] at same
      have ended (tokens : List String) : Closed (")" :: tokens) := .inr rfl
      obtain ⟨rfl, inside⟩ :=
        Source.tokens_append_inj (body.noSize (ended _)) (body'.noSize (ended _)) same
      obtain ⟨rfl, outside⟩ := ihBody (ended _) (ended _) inside
      obtain ⟨rfl, rfl⟩ := ih closed closed' (List.cons.inj outside).2
      exact ⟨rfl, rfl⟩

theorem tokens_injective : Function.Injective tokens := by
  intro units other same
  have closed : Closed [] := .inl rfl
  exact (tokens_append_inj closed closed (by rw [same])).1

end Units

theorem Source.tokens_injective : Function.Injective Source.tokens := by
  intro source other same
  have ended : NoSize [] := Closed.noSize (.inl rfl)
  exact (tokens_append_inj ended ended (by rw [same])).1

theorem image_tokens_inj {source other : Source} {units units' : Units}
    (same : source.tokens ++ units.tokens = other.tokens ++ units'.tokens) :
    source = other ∧ units = units' := by
  have follows (units : Units) : NoSize units.tokens := by
    have ended : Closed [] := .inl rfl
    simpa using units.noSize ended
  obtain ⟨rfl, bodies⟩ := Source.tokens_append_inj (follows units) (follows units') same
  exact ⟨rfl, Units.tokens_injective bodies⟩

end Retouch.Grammar
