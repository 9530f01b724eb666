import FindSelect.Proofs.Call.RoundTrip
import FindSelect.Proofs.Overwriting
import FindSelect.Session
import Mathlib.Data.List.Perm.Basic

/-!
# Calls built part by part

A call may be given its parts in any order, and a part of one kind more than once. Its statement is
that of a query with the filter and the projection given last, to which limit, offset and order are
then applied, each as given last, in any order.

* `CallPart.Kind`, `lastGiven`: the kinds of parts, and the last part of a kind;
* `content?_build`: a call has the last part of every kind;
* `modifiers`: the steps that set limit, offset and order;
* `run_modifiers_of_perm`: they may be taken in any order;
* **`toStatement_build`**: the statement of a call that was built.
-/

namespace FindSelect

/-! ## The last part of a kind -/

/-- The kinds of parts of a call. -/
inductive CallPart.Kind
  | filter
  | projection
  | limit
  | skip
  | sort
  deriving DecidableEq, Repr

/-- What a part of a kind holds. -/
abbrev CallPart.Kind.Content : CallPart.Kind → Type
  | .filter => Json
  | .projection => Json
  | .limit => UInt64
  | .skip => UInt64
  | .sort => SortSpec

/-- What a part holds, if it is of the given kind. -/
def CallPart.content? : CallPart → (kind : CallPart.Kind) → Option kind.Content
  | .filter v, .filter => some v
  | .projection v, .projection => some v
  | .limit n, .limit => some n
  | .skip n, .skip => some n
  | .sort spec, .sort => some spec
  | _, _ => none

/-- What the last part of a kind holds, if one was given. -/
def lastGiven (parts : List CallPart) (kind : CallPart.Kind) : Option kind.Content :=
  lastOf? (CallPart.content? · kind) parts

namespace FindCall

/-- What the part of a kind holds that a call has, if it has one. -/
def content? (call : FindCall) : (kind : CallPart.Kind) → Option kind.Content
  | .filter => call.filter
  | .projection => call.projection
  | .limit => call.limit
  | .skip => call.skip
  | .sort => call.sort

theorem content?_set (call : FindCall) (part : CallPart) (kind : CallPart.Kind) :
    (call.set part).content? kind = (part.content? kind).or (call.content? kind) := by
  cases part <;> cases kind <;> rfl

theorem content?_build (collection : String) (parts : List CallPart) (kind : CallPart.Kind) :
    (build collection parts).content? kind = lastGiven parts kind := by
  have hfirst : (of collection).content? kind = none := by
    cases kind <;> rfl
  have hlast := view_foldl_or (fun call => content? call kind)
    (fun part (_ : part ∈ parts) call => content?_set call part kind) (of collection)
  rw [hfirst, Option.or_none] at hlast
  exact hlast

theorem collection_build (collection : String) (parts : List CallPart) :
    (build collection parts).collection = collection := by
  have hset : ∀ call : FindCall, ∀ part, (call.set part).collection = call.collection := by
    intro call part
    cases part <;> rfl
  unfold build
  suffices h : ∀ call : FindCall, (parts.foldl set call).collection = call.collection from h _
  induction parts with
  | nil => exact fun call => rfl
  | cons part parts ih =>
    intro call
    rw [List.foldl_cons, ih, hset]

end FindCall

/-! ## Limit, offset and order -/

/-- The steps that set a limit, an offset and an order, each if it is there. -/
def modifiers (limit skip : Option UInt64) (sort : Option SortSpec) : List Step :=
  (limit.map Step.limit).toList ++ (skip.map Step.offset).toList ++
    (sort.map fun spec => Step.sorts spec.sorts).toList

variable {columns : List Column} {limit skip : Option UInt64} {sort : Option SortSpec}

/-- Two of these steps may change places: they set different parts, or they are the same step. -/
theorem advance_comm {x y : Step} (hx : x ∈ modifiers limit skip sort)
    (hy : y ∈ modifiers limit skip sort) (s : Statement) :
    Session.advance columns (Session.advance columns s x) y =
      Session.advance columns (Session.advance columns s y) x := by
  simp only [modifiers, List.mem_append, Option.mem_toList, Option.map_eq_some_iff] at hx hy
  rcases hx with (⟨n, hn, rfl⟩ | ⟨n, hn, rfl⟩) | ⟨spec, hspec, rfl⟩ <;>
    rcases hy with (⟨m, hm, rfl⟩ | ⟨m, hm, rfl⟩) | ⟨spec', hspec', rfl⟩
  · rw [Option.some.inj (hn.symm.trans hm)]
  · rfl
  · rfl
  · rfl
  · rw [Option.some.inj (hn.symm.trans hm)]
  · rfl
  · rfl
  · rfl
  · rw [Option.some.inj (hspec.symm.trans hspec')]

theorem run_modifiers_of_perm {order : List Step} (h : order.Perm (modifiers limit skip sort))
    (s : Statement) :
    Session.run columns order s = Session.run columns (modifiers limit skip sort) s := by
  refine h.foldl_eq' (fun x hx y hy t => ?_) s
  exact advance_comm (h.mem_iff.1 hx) (h.mem_iff.1 hy) t

/-- The statement of a call is that of its query, with limit, offset and order set. -/
theorem toStatement_eq_run (call : FindCall) (columns : List Column) :
    call.toStatement columns =
      Session.run columns (modifiers call.limit call.skip call.sort) <$>
        decodeQuery call.collection call.filter call.projection columns := by
  unfold FindCall.toStatement
  cases decodeQuery call.collection call.filter call.projection columns with
  | error e => rfl
  | ok s => cases call.limit <;> cases call.skip <;> cases call.sort <;> rfl

/-! ## Calls that were built -/

/-- **Calls built part by part.** The statement of a call to which parts were given is that of a
query with the filter and the projection given last, to which the limit, offset and order given last
are applied in any order; where the query fails, its error is that of the call. A filter or a
projection that is null is as good as none, and a projection that fails is reported whatever the
filter is. -/
theorem toStatement_build (collection : String) (parts : List CallPart) (columns : List Column)
    {order : List Step}
    (h : order.Perm
      (modifiers (lastGiven parts .limit) (lastGiven parts .skip) (lastGiven parts .sort))) :
    (FindCall.build collection parts).toStatement columns =
        Session.run columns order <$>
          decodeQuery collection (lastGiven parts .filter) (lastGiven parts .projection) columns ∧
      (∀ filter projection, decodeQuery collection (withoutNull filter) (withoutNull projection)
        columns = decodeQuery collection filter projection columns) ∧
      ∀ filter projection e, decodeProjection .empty projection columns = .error e →
        decodeQuery collection filter projection columns = .error e := by
  refine ⟨?_, fun filter projection => decodeQuery_withoutNull collection filter projection columns,
    fun filter projection e he => ?_⟩
  · have hcontent := FindCall.content?_build collection parts
    have hfilter : (FindCall.build collection parts).filter = _ := hcontent .filter
    have hprojection : (FindCall.build collection parts).projection = _ := hcontent .projection
    have hlimit : (FindCall.build collection parts).limit = _ := hcontent .limit
    have hskip : (FindCall.build collection parts).skip = _ := hcontent .skip
    have hsort : (FindCall.build collection parts).sort = _ := hcontent .sort
    rw [toStatement_eq_run, FindCall.collection_build, hfilter, hprojection, hlimit, hskip, hsort]
    congr 1
    funext s
    exact (run_modifiers_of_perm h s).symm
  · unfold decodeQuery
    rw [he]
    rfl

/-- Parts given twice, a null projection given last, and limit, offset and order in another order. -/
theorem toStatement_build_repeated :
    let parts : List CallPart :=
      [.limit 5, .filter (.document [("age", .null)]), .sort (.single "age" 1), .skip 2,
        .projection (.document [("name", .boolean true)]), .limit 7,
        .filter (.document [("name", .string "x"), ("age", .document [("$gt", .null)])]),
        .projection .null, .skip 3]
    let order : List Step := [.sorts [⟨"age", 1⟩], .limit 7, .offset 3]
    order.Perm (modifiers (lastGiven parts .limit) (lastGiven parts .skip)
        (lastGiven parts .sort)) ∧
      (FindCall.build "users" parts).toStatement [⟨"age"⟩, ⟨"name"⟩] =
        .ok ⟨"users", .wildcard, [⟨⟨"name"⟩, .eq, .string "x"⟩, ⟨⟨"age"⟩, .gt, .null⟩], some 7,
          some 3, [⟨"age", 1⟩]⟩ := by
  intro parts order
  have h : order.Perm (modifiers (lastGiven parts .limit) (lastGiven parts .skip)
      (lastGiven parts .sort)) :=
    (List.perm_append_comm : ([_] ++ [_, _]).Perm ([_, _] ++ [_]))
  exact ⟨h, (toStatement_build "users" parts [⟨"age"⟩, ⟨"name"⟩] h).1.trans rfl⟩

end FindSelect
