import KubeShard.Generate.Output
import Mathlib.Data.List.Infix

/-!
# References in generated matrices

The generated PipelineRun declares no parameters, so a reference to one that is left in a
matrix cannot be resolved when it runs.  `resolveMatrixValues` replaces a matrix parameter
whose whole value is one reference to an array, written without an index; every other
reference stays.
-/

namespace KubeShard.Generate

/-! ## References -/

/-- The reference to a parameter that a text starts with: what stands after `$(params`, in
the dot or the bracket notation, up to the closing parenthesis. -/
def referenceAt (chars : List Char) : Option String :=
  if "$(params".toList <+: chars then
    match chars.drop 8 with
    | '.' :: rest =>
        if ')' ∈ rest then some (.ofList ('.' :: rest.takeWhile (· ≠ ')'))) else none
    | '[' :: rest =>
        if ')' ∈ rest then some (.ofList ('[' :: rest.takeWhile (· ≠ ')'))) else none
    | _ => none
  else none

/-- The references to parameters in a text. -/
def references (text : String) : List String := text.toList.tails.filterMap referenceAt

/-- The name of the parameter a reference is to: it ends at an index, and stands in quotes
in the bracket notation. -/
def referencedName (reference : String) : String :=
  match reference.toList with
  | '.' :: rest => .ofList (rest.takeWhile (· ≠ '['))
  | _ :: quote :: rest => .ofList (rest.takeWhile (· ≠ quote))
  | _ => ""

example : (references "a $(params.images[*]) b $(params.n)").map referencedName =
    ["images", "n"] := by decide

/-- The texts of a value. -/
def ParamValue.texts (value : ParamValue) : List String :=
  value.stringVal :: value.arrayVal ++ value.objectVal.map Prod.snd

/-- The texts of a matrix. -/
def Matrix.texts (matrix : Matrix) : List String :=
  matrix.params.flatMap (fun mp => mp.value.texts) ++
    matrix.include_.flatMap fun entry => entry.params.flatMap fun mp => mp.value.texts

/-- No text of these has a reference. -/
def ReferenceFree (texts : List String) : Prop := ∀ text ∈ texts, references text = []

instance (texts : List String) : Decidable (ReferenceFree texts) :=
  inferInstanceAs (Decidable (∀ text ∈ texts, references text = []))

theorem referenceFree_append {first second : List String} :
    ReferenceFree (first ++ second) ↔ ReferenceFree first ∧ ReferenceFree second :=
  List.forall_mem_append

theorem referenceFree_flatMap {α : Type} {texts : α → List String} {items : List α} :
    ReferenceFree (items.flatMap texts) ↔ ∀ item ∈ items, ReferenceFree (texts item) := by
  simp only [ReferenceFree, List.mem_flatMap]
  constructor
  · intro free item membership text isText
    exact free text ⟨item, membership, isText⟩
  · rintro free text ⟨item, membership, isText⟩
    exact free item membership text isText

/-- The text of a reference to a whole parameter. -/
def wholeReference (name : String) : String := "$(params." ++ name ++ ")"

theorem toList_wholeReference (name : String) :
    (wholeReference name).toList = "$(params.".toList ++ (name.toList ++ [')']) := by
  rw [wholeReference, String.toList_append, String.toList_append, List.append_assoc]
  rfl

theorem references_wholeReference (name : String) : references (wholeReference name) ≠ [] := by
  have start : "$(params.".toList = ['$', '(', 'p', 'a', 'r', 'a', 'm', 's', '.'] := by decide
  intro empty
  rw [references, List.filterMap_eq_nil_iff] at empty
  have whole := empty (wholeReference name).toList
    ((List.mem_tails _ _).mpr (List.suffix_refl _))
  rw [toList_wholeReference, start] at whole
  simp [referenceAt] at whole

theorem paramReference_wholeReference (name : String) :
    paramReference (wholeReference name) = some name := by
  have opening : "$(params.".toList <+: (wholeReference name).toList := by
    rw [toList_wholeReference]
    exact List.prefix_append _ _
  have closing : ")".toList <:+ (wholeReference name).toList := by
    rw [toList_wholeReference, ← List.append_assoc]
    exact List.suffix_append _ _
  have length : "$(params.".toList.length = 9 := by decide
  rw [paramReference, if_pos ⟨opening, closing⟩, toList_wholeReference,
    List.drop_left' length, List.dropLast_concat, String.ofList_toList]

theorem wholeReference_injective : Function.Injective wholeReference := by
  intro first second same
  have names := congrArg paramReference same
  rw [paramReference_wholeReference, paramReference_wholeReference] at names
  exact Option.some.inj names

theorem paramReference_eq_some {ref name : String} :
    paramReference ref = some name ↔ ref = wholeReference name := by
  constructor
  · intro isName
    rw [paramReference, Option.ite_none_right_eq_some] at isName
    obtain ⟨⟨⟨rest, isRest⟩, ⟨front, isFront⟩⟩, isName⟩ := isName
    have length : "$(params.".toList.length = 9 := by decide
    rw [← isRest, List.drop_left' length, Option.some.injEq] at isName
    -- The text ends in a parenthesis, so what follows the opening is not empty.
    rcases List.eq_nil_or_concat' rest with rfl | ⟨inner, last, rfl⟩
    · have ends := congrArg List.getLast? (isFront.trans isRest.symm)
      simp at ends
    · have closed : last = ')' := by
        rw [← List.append_assoc] at isRest
        have same := isFront.trans isRest.symm
        exact (List.singleton_inj.mp (List.append_inj' same rfl).2).symm
      rw [List.dropLast_concat] at isName
      have inside : name.toList = inner := by rw [← isName, String.toList_ofList]
      apply String.toList_inj.mp
      rw [toList_wholeReference, ← isRest, inside, closed]
  · rintro rfl
    exact paramReference_wholeReference name

/-! ## Matrix parameters -/

/-- A matrix parameter that is left without references: it has none, or it is one reference
to a whole array parameter whose values have none. -/
def Settled (prParams : List Param) (mp : Param) : Prop :=
  ReferenceFree mp.value.texts ∨
    ∃ name vals, mp.value.arrayVal = [wholeReference name] ∧
      paramMap prParams name = some vals ∧ ReferenceFree vals

section params

variable {prParams : List Param} {mp : Param}

/-- A parameter is replaced by the values of the array that is its whole value. -/
theorem resolveMatrixParam_whole {name : String} {vals : List String}
    (whole : mp.value.arrayVal = [wholeReference name])
    (isArray : paramMap prParams name = some vals) :
    resolveMatrixParam (paramMap prParams) mp =
      { mp with value := { type := .array, arrayVal := vals } } := by
  simp only [resolveMatrixParam, whole, paramReference_wholeReference, Option.bind_some, isArray]

/-- Every other parameter is left as it is. -/
theorem resolveMatrixParam_other
    (other : ∀ name vals, mp.value.arrayVal = [wholeReference name] →
      paramMap prParams name ≠ some vals) :
    resolveMatrixParam (paramMap prParams) mp = mp := by
  unfold resolveMatrixParam
  split
  · next ref isRef =>
      split
      · next vals isVals =>
          obtain ⟨name, isName, isArray⟩ := Option.bind_eq_some_iff.mp isVals
          rw [paramReference_eq_some] at isName
          exact absurd isArray (other name vals (isName ▸ isRef))
      · rfl
  · rfl

theorem resolveMatrixParam_settled_iff :
    ReferenceFree (resolveMatrixParam (paramMap prParams) mp).value.texts ↔
      Settled prParams mp := by
  by_cases whole : ∃ name vals, mp.value.arrayVal = [wholeReference name] ∧
      paramMap prParams name = some vals
  · obtain ⟨name, vals, isWhole, isArray⟩ := whole
    rw [resolveMatrixParam_whole isWhole isArray]
    have empty : references "" = [] := by decide
    constructor
    · intro free
      refine .inr ⟨name, vals, isWhole, isArray, fun text membership => free text ?_⟩
      simpa [ParamValue.texts] using .inr membership
    · rintro (free | ⟨other, otherVals, isOther, isOtherArray, free⟩)
      · refine absurd (free (wholeReference name) ?_) (references_wholeReference name)
        simp [ParamValue.texts, isWhole]
      · rw [isWhole, List.singleton_inj] at isOther
        obtain rfl := wholeReference_injective isOther
        obtain rfl : vals = otherVals := Option.some.inj (isArray.symm.trans isOtherArray)
        intro text membership
        simp only [ParamValue.texts, List.map_nil, List.append_nil, List.mem_cons] at membership
        rcases membership with rfl | isVal
        · exact empty
        · exact free text isVal
  · have other : ∀ name vals, mp.value.arrayVal = [wholeReference name] →
        paramMap prParams name ≠ some vals := by
      intro name vals isWhole isArray
      exact whole ⟨name, vals, isWhole, isArray⟩
    rw [resolveMatrixParam_other other]
    constructor
    · exact .inl
    · rintro (free | ⟨name, vals, isWhole, isArray, _⟩)
      · exact free
      · exact absurd isArray (other name vals isWhole)

end params

/-! ## Whole matrices -/

/-- The parameters of a matrix are settled, and its combinations have no references. -/
structure MatrixSettled (prParams : List Param) (matrix : Matrix) : Prop where
  params : ∀ mp ∈ matrix.params, Settled prParams mp
  include_ : ∀ entry ∈ matrix.include_, ∀ mp ∈ entry.params, ReferenceFree mp.value.texts

theorem resolveMatrixValues_settled_iff {prParams : List Param} {matrix : Option Matrix} :
    (∀ result, resolveMatrixValues matrix prParams = some result → ReferenceFree result.texts) ↔
      ∀ original, matrix = some original → MatrixSettled prParams original := by
  cases matrix with
  | none => simp [resolveMatrixValues]
  | some original =>
      simp only [resolveMatrixValues, Option.some.injEq, forall_eq', Matrix.texts,
        referenceFree_append, referenceFree_flatMap, List.forall_mem_map,
        resolveMatrixParam_settled_iff]
      constructor
      · intro free
        exact ⟨free.1, free.2⟩
      · intro settled
        exact ⟨settled.params, settled.include_⟩

/-- A matrix of a task of the input. -/
def PipelineRun.HasMatrix (pr : PipelineRun) (matrix : Matrix) : Prop :=
  ∃ pt ∈ pr.tasks, pt.matrix = some matrix

theorem hasMatrix_generatePipelineRun {entropy : Nat → Nat → Entropy} {tasks : List TaskInfo}
    {resolved : Resolution} {prParams : List Param} {taskRunSpecs : List PipelineTaskRunSpec}
    {cfg : Config} {matrix : Matrix} :
    (generatePipelineRun entropy tasks resolved prParams taskRunSpecs cfg).HasMatrix matrix ↔
      ∃ t ∈ tasks, resolveMatrixValues t.matrix prParams = some matrix := by
  constructor
  · rintro ⟨pt, membership, isMatrix⟩
    obtain ⟨t, i, isTask, rfl⟩ := (mem_tasks_generatePipelineRun ..).mp membership
    exact ⟨t, (exists_mem_zipIdx tasks).mp ⟨i, isTask⟩, isMatrix⟩
  · rintro ⟨t, membership, isMatrix⟩
    obtain ⟨i, isTask⟩ := (exists_mem_zipIdx tasks).mpr membership
    exact ⟨_, (mem_tasks_generatePipelineRun ..).mpr ⟨t, i, isTask, rfl⟩, isMatrix⟩

theorem hasMatrix_extractTaskInfos {marshal : TaskSpec → String} {pr : PipelineRun}
    {matrix : Matrix} :
    (∃ t ∈ extractTaskInfos marshal pr, t.matrix = some matrix) ↔ pr.HasMatrix matrix := by
  have same := matrices_extractTaskInfos marshal pr
  rw [PipelineRun.HasMatrix, ← List.mem_map, ← List.mem_map, same]

/-- The generated PipelineRun declares no parameters and has no reference to one in a matrix
if and only if every matrix of the input is settled. -/
theorem matrices_self_contained_iff (marshal : TaskSpec → String)
    (entropy : Nat → Nat → Entropy) (resolved : Resolution) (cfg : Config) (pr : PipelineRun) :
    let out := generatePipelineRun entropy (extractTaskInfos marshal pr) resolved pr.params
      pr.taskRunSpecs cfg
    (out.params = [] ∧ ∀ matrix, out.HasMatrix matrix → ReferenceFree matrix.texts) ↔
      ∀ matrix, pr.HasMatrix matrix → MatrixSettled pr.params matrix := by
  intro out
  constructor
  · rintro ⟨_, free⟩ matrix isMatrix
    obtain ⟨t, membership, isOriginal⟩ := hasMatrix_extractTaskInfos.mpr isMatrix
    refine resolveMatrixValues_settled_iff.mp ?_ matrix isOriginal
    intro result isResult
    exact free result (hasMatrix_generatePipelineRun.mpr ⟨t, membership, isResult⟩)
  · intro settled
    refine ⟨rfl, ?_⟩
    intro matrix isMatrix
    obtain ⟨t, membership, isResult⟩ := hasMatrix_generatePipelineRun.mp isMatrix
    refine resolveMatrixValues_settled_iff.mpr ?_ matrix isResult
    intro original isOriginal
    exact settled original (hasMatrix_extractTaskInfos.mp ⟨t, membership, isOriginal⟩)

/-- A PipelineRun with one task, and a matrix parameter of one value. -/
def matrixRun (value : String) : PipelineRun where
  params := [⟨"images", { type := .array, arrayVal := ["a", "b"] }⟩]
  pipelineSpec := some { tasks := [
    { name := "scan", matrix := some { params :=
        [⟨"image", { type := .array, arrayVal := [value] }⟩] } }] }

/-- The usual reference to a whole array, to a parameter that the PipelineRun supplies, is
still there in what is generated. -/
theorem star_reference_stays :
    ((matrixRun "$(params.images[*])").tasks.all fun pt =>
      pt.matrix.all fun matrix => matrix.texts.all fun text =>
        (references text).all fun reference =>
          (matrixRun "$(params.images[*])").params.any fun param =>
            param.name = referencedName reference) = true ∧
    (generatePipelineRun (fun _ _ => .zeros)
        (extractTaskInfos (fun _ => "") (matrixRun "$(params.images[*])")) (fun _ => none)
        (matrixRun "$(params.images[*])").params [] {}).tasks.map
      (fun pt => pt.matrix.map Matrix.texts) = [some ["", "$(params.images[*])"]] ∧
    ¬ReferenceFree ["", "$(params.images[*])"] := by
  decide +kernel

end KubeShard.Generate
