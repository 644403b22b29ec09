import Retouch.Files

/-!
Where paths lead, and what stays of that when files come and go. A directory is never deleted, so a
path that can name a file at some location goes on naming that location.
-/
namespace Retouch.Files

def HoldsFile (files : Files) (location : Location) : Prop :=
  ∃ content, files.at? location = some (.file content)

/-- All directories are still there. -/
structure Shelters (before after : Files) : Prop where
  workdir : after.workdir = before.workdir
  directory : ∀ location, before.at? location = some .directory →
    after.at? location = some .directory

/-- All files are still there. -/
def Spared (before after : Files) : Prop :=
  ∀ location, before.HoldsFile location → after.HoldsFile location

theorem Shelters.refl (files : Files) : Shelters files files := ⟨rfl, fun _ here => here⟩

theorem Shelters.trans {a b c : Files} (first : Shelters a b) (second : Shelters b c) :
    Shelters a c :=
  ⟨second.workdir.trans first.workdir,
    fun location here => second.directory location (first.directory location here)⟩

theorem not_holdsFile_root (files : Files) : ¬ files.HoldsFile [] := by
  rintro ⟨content, here⟩
  cases here

def stride (files : Files) (location : Location) (segment : Path.Segment) :
    Except Obstacle Location :=
  match files.at? location with
  | none => .error .missing
  | some (.file _) => .error .notDirectory
  | some .directory =>
    if isNameless segment then .ok location
    else if isUpward segment then .ok location.dropLast
    else if isTooLong segment then .error .nameTooLong
    else if (files.at? (location ++ [segment])).isNone then .error .missing
    else .ok (location ++ [segment])

variable {files before after : Files} {path : String} {location place : Location}

theorem walk_cons (files : Files) (location : Location) (segment : Path.Segment)
    (rest : List Path.Segment) : files.walk location (segment :: rest) =
      files.stride location segment >>= fun next => files.walk next rest := by
  rw [walk, stride]
  rcases files.at? location with _ | _ | content
  · rfl
  · simp only
    split
    · rfl
    · split
      · rfl
      · split
        · rfl
        · split <;> rfl
  · rfl

theorem walk_append (files : Files) (location : Location) (first later : List Path.Segment) :
    files.walk location (first ++ later) =
      files.walk location first >>= fun next => files.walk next later := by
  induction first generalizing location with
  | nil => rfl
  | cons segment rest ih =>
    rw [List.cons_append, walk_cons, walk_cons]
    cases files.stride location segment with
    | error obstacle => rfl
    | ok next => exact ih next

theorem stride_ok {segment : Path.Segment} (walked : files.stride location segment = .ok place) :
    files.at? location = some .directory := by
  unfold stride at walked
  cases here : files.at? location with
  | none =>
    rw [here] at walked
    cases walked
  | some entry =>
    rw [here] at walked
    cases entry with
    | directory => rfl
    | file content => cases walked

theorem stride_stable {segment : Path.Segment} (shelters : Shelters before after)
    (walked : before.stride location segment = .ok place) (there : (after.at? place).isSome) :
    after.stride location segment = .ok place := by
  have here := stride_ok walked
  unfold stride at walked ⊢
  rw [here] at walked
  rw [shelters.directory location here]
  simp only at walked ⊢
  split
  next nameless => simpa [nameless] using walked
  next named =>
    split
    next upward => simpa [named, upward] using walked
    next downward =>
      split
      next long => simp [named, downward, long] at walked
      next short =>
        simp only [named, downward, short, if_false, Bool.false_eq_true] at walked
        split at walked
        · cases walked
        · obtain rfl := Except.ok.inj walked
          rw [if_neg (by simpa [Option.isSome_iff_ne_none] using there)]

/-- A walk that ends at something can be made again where the directories are still there. -/
theorem walk_stable {segments : List Path.Segment} (shelters : Shelters before after)
    (walked : before.walk location segments = .ok place) (there : (after.at? place).isSome) :
    after.walk location segments = .ok place := by
  induction segments generalizing location with
  | nil => exact walked
  | cons segment rest ih =>
    rw [walk_cons] at walked ⊢
    cases stepped : before.stride location segment with
    | error obstacle =>
      rw [stepped] at walked
      cases walked
    | ok next =>
      rw [stepped] at walked
      have found : (after.at? next).isSome := by
        cases rest with
        | nil =>
          obtain rfl := Except.ok.inj walked
          exact there
        | cons segment later =>
          -- The walk goes on from there, so a directory is there.
          have inside : before.at? next = some .directory := by
            change before.walk next (segment :: later) = .ok place at walked
            rw [walk_cons] at walked
            cases entered : before.stride next segment with
            | error obstacle =>
              rw [entered] at walked
              cases walked
            | ok further => exact stride_ok entered
          rw [shelters.directory next inside]
          rfl
      rw [stride_stable shelters stepped found]
      exact ih walked

def IsName (segment : Path.Segment) : Prop :=
  isNameless segment = false ∧ isUpward segment = false ∧ isTooLong segment = false

theorem start_ok {segments : List Path.Segment}
    (started : files.start path = .ok (location, segments)) :
    ∃ first name, segments = first ++ [name] ∧ (Path.segments path).getLast? = some name := by
  unfold start at started
  split at started
  · cases started
  · split at started
    · cases started
    next rest single cut =>
      obtain ⟨rfl, rfl⟩ := Prod.mk.inj (Except.ok.inj started)
      have filled : rest ≠ [] := by
        rintro rfl
        exact single rfl
      refine ⟨rest.dropLast, rest.getLast filled, (List.dropLast_concat_getLast filled).symm, ?_⟩
      rw [cut, List.getLast?_cons_of_ne_nil filled, List.getLast?_eq_some_getLast filled]
    next all single rooted =>
      obtain ⟨rfl, rfl⟩ := Prod.mk.inj (Except.ok.inj started)
      have filled : Path.segments path ≠ [] := Text.splitAll_ne_nil '/' path.toList
      exact ⟨_, _, (List.dropLast_concat_getLast filled).symm,
        List.getLast?_eq_some_getLast filled⟩

theorem vacancy_ok (found : files.vacancy path = .ok place) :
    ∃ origin first directory name, files.start path = .ok (origin, first ++ [name]) ∧
      files.walk origin first = .ok directory ∧ files.at? directory = some .directory ∧
      IsName name ∧ (Path.segments path).getLast? = some name ∧ place = directory ++ [name] := by
  unfold vacancy at found
  cases started : files.start path with
  | error obstacle =>
    rw [started] at found
    cases found
  | ok pair =>
    obtain ⟨origin, segments⟩ := pair
    obtain ⟨first, name, rfl, last⟩ := start_ok started
    rw [started] at found
    have held : files.holder origin (first ++ [name]) >>= (fun vacant =>
        if isNameless vacant.2 || isUpward vacant.2 then .error .isDirectory
        else if isTooLong vacant.2 then .error .nameTooLong
        else .ok (vacant.1 ++ [vacant.2])) = .ok place := found
    unfold holder at held
    rw [List.dropLast_concat, List.getLast?_concat] at held
    cases walked : files.walk origin first with
    | error obstacle =>
      rw [walked] at held
      cases held
    | ok directory =>
      rw [walked] at held
      cases here : files.at? directory with
      | none => simp [here, bind, Except.bind, throw, throwThe, MonadExceptOf.throw] at held
      | some entry =>
        cases entry with
        | file content =>
          simp [here, bind, Except.bind, throw, throwThe, MonadExceptOf.throw] at held
        | directory =>
          simp only [here, bind, Except.bind, pure, Except.pure, Option.getD_some] at held
          split at held
          · cases held
          next named =>
            split at held
            · cases held
            next short =>
              obtain ⟨named, downward⟩ : isNameless name = false ∧ isUpward name = false := by
                simpa using named
              exact ⟨origin, first, directory, name, rfl, walked, here,
                ⟨named, downward, by simpa using short⟩, last, (Except.ok.inj held).symm⟩

theorem vacancy_eq {origin directory : Location} {first : List Path.Segment} {name : Path.Segment}
    (started : files.start path = .ok (origin, first ++ [name]))
    (walked : files.walk origin first = .ok directory)
    (here : files.at? directory = some .directory) (proper : IsName name) :
    files.vacancy path = .ok (directory ++ [name]) := by
  obtain ⟨named, downward, short⟩ := proper
  simp only [vacancy, started, bind, Except.bind, holder, List.dropLast_concat, walked, here,
    List.getLast?_concat, pure, Except.pure, Option.getD_some, named, downward, short,
    Bool.or_self, Bool.false_eq_true, if_false]

theorem find_eq {origin directory : Location} {first : List Path.Segment} {name : Path.Segment}
    (started : files.start path = .ok (origin, first ++ [name]))
    (walked : files.walk origin first = .ok directory)
    (here : files.at? directory = some .directory) (proper : IsName name) :
    files.find path = if (files.at? (directory ++ [name])).isNone then .error .missing
      else .ok (directory ++ [name]) := by
  obtain ⟨named, downward, short⟩ := proper
  have ended : files.walk directory [name] = files.stride directory name := by
    rw [walk_cons]
    cases files.stride directory name <;> rfl
  have found : files.find path = files.walk origin (first ++ [name]) := by
    simp only [find, started, bind, Except.bind]
  rw [found, walk_append, walked]
  change files.walk directory [name] = _
  rw [ended, stride, here]
  simp only [named, downward, short, Bool.false_eq_true, if_false]

theorem vacancy_stable (shelters : Shelters before after)
    (found : before.vacancy path = .ok place) : after.vacancy path = .ok place := by
  obtain ⟨origin, first, directory, name, started, walked, here, proper, -, rfl⟩ := vacancy_ok found
  have there := shelters.directory directory here
  have started' : after.start path = .ok (origin, first ++ [name]) := by
    rw [← started, start, start, shelters.workdir]
  have walked' := walk_stable shelters walked (by rw [there]; rfl)
  exact vacancy_eq started' walked' there proper

theorem vacancy_ne_root (found : files.vacancy path = .ok place) : place ≠ [] := by
  obtain ⟨origin, first, directory, name, -, -, -, -, -, rfl⟩ := vacancy_ok found
  simp

theorem vacancy_last (found : files.vacancy path = .ok place) :
    place.getLast? = (Path.segments path).getLast? := by
  obtain ⟨origin, first, directory, name, -, -, -, -, last, rfl⟩ := vacancy_ok found
  rw [List.getLast?_concat, last]

theorem isFile_iff (found : files.vacancy path = .ok place) :
    files.isFile path = true ↔ files.HoldsFile place := by
  obtain ⟨origin, first, directory, name, started, walked, here, proper, -, rfl⟩ := vacancy_ok found
  unfold isFile HoldsFile
  rw [find_eq started walked here proper]
  cases there : files.at? (directory ++ [name]) with
  | none => simp
  | some entry => cases entry <;> simp [there]

theorem isFile_find : files.isFile path = true ↔
    ∃ location, files.find path = .ok location ∧ files.HoldsFile location := by
  unfold isFile HoldsFile
  cases found : files.find path with
  | error obstacle => simp
  | ok location =>
    cases here : files.at? location with
    | none => simp [here]
    | some entry => cases entry <;> simp [here]

theorem find_stable (shelters : Shelters before after) (found : before.find path = .ok place)
    (there : (after.at? place).isSome) : after.find path = .ok place := by
  have same : after.start path = before.start path := by
    rw [start, start, shelters.workdir]
  unfold find at found ⊢
  rw [same]
  cases started : before.start path with
  | error obstacle =>
    rw [started] at found
    cases found
  | ok pair =>
    rw [started] at found
    exact walk_stable shelters found there

theorem isFile_stable (shelters : Shelters before after) (spared : Spared before after)
    (there : before.isFile path = true) : after.isFile path = true := by
  obtain ⟨location, found, filed⟩ := isFile_find.mp there
  obtain ⟨content, here⟩ := spared location filed
  exact isFile_find.mpr ⟨location, find_stable shelters found (by rw [here]; rfl), content, here⟩

theorem vacancy_of_isFile {name : Path.Segment} (there : files.isFile path = true)
    (last : (Path.segments path).getLast? = some name) (named : isNameless name = false)
    (downward : isUpward name = false) : ∃ place, files.vacancy path = .ok place := by
  obtain ⟨place, found, -⟩ := isFile_find.mp there
  unfold find at found
  cases started : files.start path with
  | error obstacle =>
    rw [started] at found
    cases found
  | ok pair =>
    obtain ⟨origin, segments⟩ := pair
    obtain ⟨first, final, rfl, last'⟩ := start_ok started
    obtain rfl := Option.some.inj (last.symm.trans last')
    rw [started] at found
    change files.walk origin (first ++ [name]) = .ok place at found
    rw [walk_append] at found
    cases walked : files.walk origin first with
    | error obstacle =>
      rw [walked] at found
      cases found
    | ok directory =>
      rw [walked] at found
      change files.walk directory [name] = .ok place at found
      rw [walk_cons] at found
      cases stepped : files.stride directory name with
      | error obstacle =>
        rw [stepped] at found
        cases found
      | ok next =>
        have here := stride_ok stepped
        have short : isTooLong name = false := by
          unfold stride at stepped
          rw [here] at stepped
          cases long : isTooLong name with
          | false => rfl
          | true => simp [named, downward, long] at stepped
        exact ⟨directory ++ [name], vacancy_eq started walked here ⟨named, downward, short⟩⟩

/-- All directories are still there, and no file is new but where the path leads to. -/
structure Writes (path : String) (before after : Files) : Prop where
  shelters : Shelters before after
  added : ∀ location, after.HoldsFile location →
    before.HoldsFile location ∨ after.vacancy path = .ok location

theorem Writes.refl (path : String) (files : Files) : Writes path files files :=
  ⟨Shelters.refl files, fun _ here => .inl here⟩

theorem Writes.trans {a b c : Files} (first : Writes path a b) (second : Writes path b c) :
    Writes path a c where
  shelters := first.shelters.trans second.shelters
  added location here := by
    rcases second.added location here with between | led
    · rcases first.added location between with start | led
      · exact .inl start
      · exact .inr (vacancy_stable second.shelters led)
    · exact .inr led

theorem Writes.added_isFile (writes : Writes path before after) (spared : Spared before after)
    (there : before.isFile path = true) (here : after.HoldsFile location) :
    before.HoldsFile location := by
  rcases writes.added location here with old | led
  · exact old
  · obtain ⟨place, found, filed⟩ := isFile_find.mp there
    obtain ⟨content, still⟩ := spared place filed
    have same : after.find path = .ok location := by
      obtain ⟨origin, first, directory, name, started, walked, inside, proper, -, rfl⟩ :=
        vacancy_ok led
      obtain ⟨content, here⟩ := here
      rw [find_eq started walked inside proper, here]
      rfl
    rw [find_stable writes.shelters found (by rw [still]; rfl)] at same
    obtain rfl := Except.ok.inj same
    exact filed

end Retouch.Files
