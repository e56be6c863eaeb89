import PinkyLex.Command.Request

namespace PinkyLex.Command

/-!
# Verbose requests

A verbose flag among the arguments changes nothing else that they ask for.  The
requests with and without the flag are carried along the arguments; they stay the same
up to being verbose wherever both are extended.
-/

/-- How a command line asks for a verbose run. -/
def verboseFlags : List String :=
  ["-v", "--verbose"]

theorem ofText_of_mem_verboseFlags
    {flag : String}
    (listed : flag ∈ verboseFlags) :
    Argument.ofText flag = .flag .verbose ∧ Argument.isValue flag = false := by
  simp only [verboseFlags, List.mem_cons, List.not_mem_nil, or_false] at listed
  rcases listed with rfl | rfl <;> decide

namespace Request

/-- A request that is not verbose and otherwise the same. -/
def silent (request : Request) : Request :=
  { request with verbose := false }

/-- Requests that are the same when silent differ in being verbose at most. -/
theorem eq_of_silent_eq
    {first second : Request}
    (alike : second.silent = first.silent) :
    second = { first with verbose := second.verbose } := by
  cases first
  cases second
  simpa [silent] using alike

section Steps

variable {request extended : Request}

theorem map_silent_withFile?
    (request : Request)
    (path : String) :
    (request.withFile? path).map silent = request.silent.withFile? path := by
  simp only [withFile?, silent]
  cases withPath? request.file? path <;> rfl

theorem map_silent_withSetting?
    (request : Request)
    (setting : Setting)
    (value : String) :
    (request.withSetting? setting value).map silent =
      request.silent.withSetting? setting value := by
  obtain ⟨file?, dialect?, singleLineStrings, vocabularyFile?, settingsFile?, format?, verbose⟩ :=
    request
  cases setting with
  | dialect =>
      simp only [withSetting?, silent]
      cases dialect? <;> cases Dialect.ofCode? value <;> rfl
  | format =>
      simp only [withSetting?, silent]
      cases format? <;> cases Format.ofCode? value <;> rfl
  | vocabularyFile =>
      simp only [withSetting?, silent]
      cases withPath? vocabularyFile? value <;> rfl
  | settingsFile =>
      simp only [withSetting?, silent]
      cases withPath? settingsFile? value <;> rfl

theorem map_silent_withFlag?_singleLineStrings
    (request : Request) :
    (request.withFlag? .singleLineStrings).map silent =
      request.silent.withFlag? .singleLineStrings := by
  obtain ⟨file?, dialect?, singleLineStrings, vocabularyFile?, settingsFile?, format?, verbose⟩ :=
    request
  cases singleLineStrings <;> rfl

theorem silent_of_withFlag?_verbose
    (filled : request.withFlag? .verbose = some extended) :
    extended.silent = request.silent := by
  simp only [withFlag?] at filled
  split at filled
  · cases filled
  · cases filled
    rfl

end Steps

section Alike

variable {first second firstEnd secondEnd : Request}

/-- A step that only looks at what is asked for besides being verbose keeps requests alike. -/
theorem silent_eq_of_map_silent
    {fill : Request → Option Request}
    (independent : ∀ request, (fill request).map silent = fill request.silent)
    (alike : first.silent = second.silent)
    (firstFilled : fill first = some firstEnd)
    (secondFilled : fill second = some secondEnd) :
    firstEnd.silent = secondEnd.silent := by
  have filled := (independent first).trans (alike ▸ (independent second).symm)
  rw [firstFilled, secondFilled] at filled
  exact Option.some.inj filled

theorem silent_eq_of_withFlag?
    {flag : Flag}
    (alike : first.silent = second.silent)
    (firstFilled : first.withFlag? flag = some firstEnd)
    (secondFilled : second.withFlag? flag = some secondEnd) :
    firstEnd.silent = secondEnd.silent := by
  cases flag with
  | singleLineStrings =>
      exact silent_eq_of_map_silent map_silent_withFlag?_singleLineStrings alike firstFilled
        secondFilled
  | verbose =>
      rw [silent_of_withFlag?_verbose firstFilled, silent_of_withFlag?_verbose secondFilled]
      exact alike

theorem silent_eq_of_foldlM_withFile?
    {paths : List String}
    (alike : first.silent = second.silent)
    (firstFilled : paths.foldlM withFile? first = some firstEnd)
    (secondFilled : paths.foldlM withFile? second = some secondEnd) :
    firstEnd.silent = secondEnd.silent := by
  induction paths generalizing first second with
  | nil =>
      cases firstFilled
      cases secondFilled
      exact alike
  | cons path paths inductionHypothesis =>
      rw [List.foldlM_cons, Option.bind_eq_bind, Option.bind_eq_some_iff] at firstFilled secondFilled
      obtain ⟨firstNext, firstStep, firstLater⟩ := firstFilled
      obtain ⟨secondNext, secondStep, secondLater⟩ := secondFilled
      have alikeNext :=
        silent_eq_of_map_silent (map_silent_withFile? · path) alike firstStep secondStep
      exact inductionHypothesis alikeNext firstLater secondLater

/-- What is filled in first is kept alike, and so is what the other arguments fill in. -/
theorem silent_eq_of_bind
    (fill : Request → Option Request)
    {others : List String}
    (step :
      ∀ {firstNext secondNext : Request},
        fill first = some firstNext →
        fill second = some secondNext →
        firstNext.silent = secondNext.silent)
    (later :
      ∀ firstNext secondNext : Request,
        firstNext.silent = secondNext.silent →
        firstNext.extend? others = some firstEnd →
        secondNext.extend? others = some secondEnd →
        firstEnd.silent = secondEnd.silent)
    (firstExtended : ((fill first).bind fun next => next.extend? others) = some firstEnd)
    (secondExtended : ((fill second).bind fun next => next.extend? others) = some secondEnd) :
    firstEnd.silent = secondEnd.silent := by
  rw [Option.bind_eq_some_iff] at firstExtended secondExtended
  obtain ⟨firstNext, firstStep, firstLater⟩ := firstExtended
  obtain ⟨secondNext, secondStep, secondLater⟩ := secondExtended
  exact later firstNext secondNext (step firstStep secondStep) firstLater secondLater

/-- Requests that differ in being verbose stay alike along the same arguments. -/
theorem silent_eq_of_extend?
    {arguments : List String}
    (alike : first.silent = second.silent)
    (firstExtended : first.extend? arguments = some firstEnd)
    (secondExtended : second.extend? arguments = some secondEnd) :
    firstEnd.silent = secondEnd.silent := by
  fun_induction extend? first arguments generalizing second with
  | case1 first =>
      cases firstExtended
      cases secondExtended
      exact alike
  | case2 first argument rest isSeparator =>
      simp only [extend?, isSeparator] at secondExtended
      exact silent_eq_of_foldlM_withFile? alike firstExtended secondExtended
  | case3 first argument rest path isFile inductionHypothesis =>
      simp only [extend?, isFile] at secondExtended
      exact silent_eq_of_bind (withFile? · path)
        (silent_eq_of_map_silent (map_silent_withFile? · path) alike)
        (fun firstNext _ => inductionHypothesis firstNext)
        firstExtended secondExtended
  | case4 first argument rest flag isFlag inductionHypothesis =>
      simp only [extend?, isFlag] at secondExtended
      exact silent_eq_of_bind (withFlag? · flag) (silent_eq_of_withFlag? alike)
        (fun firstNext _ => inductionHypothesis firstNext)
        firstExtended secondExtended
  | case5 first argument rest setting value isSetting inductionHypothesis =>
      simp only [extend?, isSetting] at secondExtended
      exact silent_eq_of_bind (withSetting? · setting value)
        (silent_eq_of_map_silent (map_silent_withSetting? · setting value) alike)
        (fun firstNext _ => inductionHypothesis firstNext)
        firstExtended secondExtended
  | case6 =>
      cases firstExtended
  | case7 first argument setting isSetting value later isValue inductionHypothesis =>
      simp only [extend?, isSetting, isValue] at secondExtended
      exact silent_eq_of_bind (withSetting? · setting value)
        (silent_eq_of_map_silent (map_silent_withSetting? · setting value) alike)
        (fun firstNext _ => inductionHypothesis firstNext)
        firstExtended secondExtended
  | case8 =>
      cases firstExtended
  | case9 =>
      cases firstExtended

end Alike

section Insertion

variable {known request flagged : Request} {front back : List String} {flag : String}

/-- A file is only filled in where there is none. -/
theorem file?_of_withFile?
    {path : String}
    (filled : known.withFile? path = some request) :
    known.file? = none ∧ request.file? = some path := by
  simp only [withFile?, withPath?] at filled
  split at filled
  case isTrue free =>
    simp only [Bool.and_eq_true, Option.isNone_iff_eq_none] at free
    cases filled
    exact ⟨free.1, rfl⟩
  case isFalse =>
    cases filled

/-- No more than one file is filled in. -/
theorem of_foldlM_withFile?
    {paths : List String}
    (filled : paths.foldlM withFile? known = some request) :
    paths = [] ∨ (∃ path, paths = [path]) ∧ known.file? = none := by
  match paths with
  | [] =>
      exact .inl rfl
  | [path] =>
      rw [List.foldlM_cons, Option.bind_eq_bind, Option.bind_eq_some_iff] at filled
      obtain ⟨next, first, -⟩ := filled
      exact .inr ⟨⟨path, rfl⟩, (file?_of_withFile? first).1⟩
  | path :: other :: paths =>
      simp only [List.foldlM_cons, Option.bind_eq_bind, Option.bind_eq_some_iff] at filled
      obtain ⟨next, first, later, second, -⟩ := filled
      have taken := (file?_of_withFile? first).2
      rw [(file?_of_withFile? second).1] at taken
      cases taken

/-- Behind a separator there is no room for a flag, which would be a second file. -/
theorem file?_of_foldlM_insert
    (filled : (front ++ back).foldlM withFile? known = some request)
    (filledToo : (front ++ flag :: back).foldlM withFile? known = some flagged) :
    request.file? = none := by
  obtain empty | ⟨⟨path, single⟩, free⟩ := of_foldlM_withFile? filledToo
  · simp at empty
  · have lengths := congrArg List.length single
    simp only [List.length_append, List.length_cons, List.length_nil] at lengths
    have noFront : front = [] := List.length_eq_zero_iff.mp (by omega)
    have noBack : back = [] := List.length_eq_zero_iff.mp (by omega)
    subst noFront noBack
    cases filled
    exact free

/-- What is filled in before other arguments is the same for all of them. -/
theorem exists_of_bind_extend?
    {filled : Option Request}
    {others othersToo : List String}
    (extended : (filled.bind fun next => next.extend? others) = some request)
    (extendedToo : (filled.bind fun next => next.extend? othersToo) = some flagged) :
    ∃ next : Request,
      next.extend? others = some request ∧ next.extend? othersToo = some flagged := by
  cases filled with
  | none =>
      cases extended
  | some next =>
      exact ⟨next, extended, extendedToo⟩

/-- A verbose flag that is put among the arguments leaves the rest of the request as it is. -/
theorem silent_eq_of_insert
    {known : Request}
    {front : List String}
    (listed : flag ∈ verboseFlags)
    (named : request.file? ≠ none)
    (extended : known.extend? (front ++ back) = some request)
    (extendedToo : known.extend? (front ++ flag :: back) = some flagged) :
    flagged.silent = request.silent := by
  obtain ⟨isFlag, notValue⟩ := ofText_of_mem_verboseFlags listed
  match front with
  | [] =>
      simp only [List.nil_append, extend?, isFlag] at extended extendedToo
      obtain ⟨next, filled, later⟩ := Option.bind_eq_some_iff.mp extendedToo
      exact silent_eq_of_extend? (silent_of_withFlag?_verbose filled) later extended
  | argument :: front =>
      rw [List.cons_append, extend?] at extended extendedToo
      cases kind : Argument.ofText argument with
      | separator =>
          simp only [kind] at extended extendedToo
          exact absurd (file?_of_foldlM_insert extended extendedToo) named
      | file path =>
          simp only [kind] at extended extendedToo
          obtain ⟨next, later, laterToo⟩ := exists_of_bind_extend? extended extendedToo
          exact silent_eq_of_insert listed named later laterToo
      | flag given =>
          simp only [kind] at extended extendedToo
          obtain ⟨next, later, laterToo⟩ := exists_of_bind_extend? extended extendedToo
          exact silent_eq_of_insert listed named later laterToo
      | setting setting value? =>
          cases value? with
          | some value =>
              simp only [kind] at extended extendedToo
              obtain ⟨next, later, laterToo⟩ := exists_of_bind_extend? extended extendedToo
              exact silent_eq_of_insert listed named later laterToo
          | none =>
              cases front with
              | nil =>
                  -- The flag would be taken for the value that the option is missing.
                  simp only [kind, List.nil_append, notValue] at extendedToo
                  cases extendedToo
              | cons value front =>
                  simp only [kind, List.cons_append] at extended extendedToo
                  split at extended
                  case isTrue isValue =>
                    rw [if_pos isValue] at extendedToo
                    obtain ⟨next, later, laterToo⟩ := exists_of_bind_extend? extended extendedToo
                    exact silent_eq_of_insert listed named later laterToo
                  case isFalse =>
                    cases extended
      | unknown =>
          simp only [kind] at extended
          cases extended
termination_by front.length

end Insertion

end Request

end PinkyLex.Command
