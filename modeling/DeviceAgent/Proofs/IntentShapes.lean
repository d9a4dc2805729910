import DeviceAgent.Action.Basic
import DeviceAgent.Proofs.WireRoundTrip

/-!
# The two shapes of an intent

An intent comes as a name with its parameters in an object of their own, or flat, with its parameters beside its action.
Both shapes are read as one intent, unless a parameter of the flat one is a text under `name`: then the parameters alone
are taken for an intent of that name.
-/

namespace DeviceAgent

/-! ## Members of an object -/

namespace Json

variable {key : String} {value v : Json} {members : List (String × Json)}

@[simp]
lemma member?_nil (key : String) : member? key [] = none := rfl

@[simp]
lemma member?_cons (key k : String) (v : Json) (members : List (String × Json)) :
    member? key ((k, v) :: members) = if key = k then some v else member? key members := by
  rw [member?, List.lookup_cons]
  split_ifs with h
  · simp [h]
  · rw [beq_false_of_ne h, member?]

@[simp]
lemma member?_insert_self (key : String) (value : Json) (members : List (String × Json)) :
    member? key (insert key value members) = some value := by
  induction members with
  | nil => simp [insert]
  | cons member members ih =>
    obtain ⟨k, v⟩ := member
    rw [insert]
    split_ifs with hlt hgt
    · simp
    · have hne : key ≠ k := fun h => String.lt_irrefl k (h ▸ hgt)
      rw [member?_cons, if_neg hne, ih]
    · simp

lemma member?_insert_of_ne {other : String} (h : other ≠ key) (value : Json) (members : List (String × Json)) :
    member? other (insert key value members) = member? other members := by
  induction members with
  | nil => simp [insert, h]
  | cons member members ih =>
    obtain ⟨k, v⟩ := member
    rw [insert]
    split_ifs with hlt hgt
    · rw [member?_cons, if_neg h]
    · rw [member?_cons, member?_cons, ih]
    · obtain rfl : k = key := String.le_antisymm (String.not_lt.mp hlt) (String.not_lt.mp hgt)
      rw [member?_cons, member?_cons, if_neg h, if_neg h]

/-- A member that is put in can be taken out again. -/
lemma filter_insert (h : key ∉ members.map Prod.fst) (value : Json) :
    (insert key value members).filter (fun member => member.1 != key) = members := by
  have hkeep : ∀ members : List (String × Json), key ∉ members.map Prod.fst →
      members.filter (fun member => member.1 != key) = members := by
    intro members h
    rw [List.filter_eq_self]
    intro member hm
    simpa using fun he : member.1 = key => h (he ▸ List.mem_map_of_mem hm)
  induction members with
  | nil => simp [insert]
  | cons member members ih =>
    obtain ⟨k, v⟩ := member
    have hk : k ≠ key := fun he => h (by simp [he])
    have hrest : key ∉ members.map Prod.fst := fun hm => h (List.mem_cons_of_mem _ hm)
    rw [insert]
    split_ifs with hlt hgt
    · rw [List.filter_cons_of_neg (by simp), hkeep _ h]
    · rw [List.filter_cons_of_pos (by simpa using hk), ih hrest]
    · exact (hk (String.le_antisymm (String.not_lt.mp hlt) (String.not_lt.mp hgt))).elim

lemma depth_le_of_member? (h : member? key members = some v) : v.depth ≤ depthMembers members := by
  induction members with
  | nil => simp [member?] at h
  | cons member members ih =>
    obtain ⟨k, w⟩ := member
    rw [depthMembers]
    rw [member?_cons] at h
    split_ifs at h with hk
    · obtain rfl := Option.some.inj h
      exact Nat.le_max_left _ _
    · exact Nat.le_trans (ih h) (Nat.le_max_right _ _)

/-- No object is a member of itself. -/
lemma member?_ne_object : member? key members ≠ some (.object members) := by
  intro h
  have hdepth := depth_le_of_member? h
  rw [depth] at hdepth
  omega

end Json

/-! ## Reading both shapes -/

namespace Intent

/-- The flat shape of an intent, which has its action among its parameters. -/
def toFlatJson (intent : Intent) : Json :=
  .object (Json.insert "action" (.string intent.name) intent.params)

variable {intent : Intent}

/-- Without a text under `name` the action names the intent. -/
lemma ofJson?_toFlatJson (ha : "action" ∉ intent.params.map Prod.fst)
    (hn : ∀ text, Json.member? "name" intent.params ≠ some (.string text)) :
    ofJson? intent.toFlatJson = some ⟨Text.trimmed intent.name, intent.params⟩ := by
  have hname : (Json.member? "name" intent.params).bind Json.string? = none := by
    rcases hm : Json.member? "name" intent.params with _ | v
    · rfl
    · cases v with
      | string text => exact (hn text hm).elim
      | _ => rfl
  rw [toFlatJson, ofJson?, Json.member?_insert_of_ne (by decide), hname]
  dsimp only
  rw [Json.member?_insert_self, Json.filter_insert ha]
  rfl

/-- With a text under `name` the action counts for nothing. -/
lemma ofJson?_toFlatJson_of_name {text : String} (hn : Json.member? "name" intent.params = some (.string text)) :
    ofJson? intent.toFlatJson = ofJson? (.object intent.params) := by
  simp only [toFlatJson, ofJson?]
  rw [Json.member?_insert_of_ne (by decide), Json.member?_insert_of_ne (by decide), hn]
  rfl

/-- Parameters with a text under `name` are taken for an intent with other parameters, if they are taken for one. -/
lemma params_ne_of_name {text : String} {other : Intent}
    (hn : Json.member? "name" intent.params = some (.string text))
    (ho : ofJson? (.object intent.params) = some other) :
    other.name = Text.trimmed text ∧ other.params ≠ intent.params := by
  have hne : ([] : List (String × Json)) ≠ intent.params := by
    intro he
    simp [← he] at hn
  simp only [ofJson?, hn] at ho
  dsimp only [Option.bind_some, Json.string?] at ho
  split at ho
  · next params hp =>
    obtain rfl := Option.some.inj ho
    exact ⟨rfl, fun he => Json.member?_ne_object (he ▸ hp)⟩
  · obtain rfl := Option.some.inj ho
    exact ⟨rfl, hne⟩
  · obtain rfl := Option.some.inj ho
    exact ⟨rfl, hne⟩
  · simp at ho

/-- Both shapes of an intent are read as that intent, its name without the blanks around it, exactly when no parameter
is a text under `name`. Such a text takes the place of the action: the flat shape is then read as its parameters alone
would be, and never as an intent with those parameters. -/
theorem shapes_agree_iff (h : "action" ∉ intent.params.map Prod.fst) :
    ofJson? intent.toJson = some ⟨Text.trimmed intent.name, intent.params⟩ ∧
      (ofJson? intent.toFlatJson = ofJson? intent.toJson ↔
        ∀ text, Json.member? "name" intent.params ≠ some (.string text)) ∧
      ∀ text, Json.member? "name" intent.params = some (.string text) →
        ofJson? intent.toFlatJson = ofJson? (.object intent.params) ∧
          ∀ other, ofJson? intent.toFlatJson = some other →
            other.name = Text.trimmed text ∧ other.params ≠ intent.params := by
  refine ⟨intent.ofJson?_toJson, ⟨?_, ?_⟩, ?_⟩
  · intro he text hn
    rw [ofJson?_toFlatJson_of_name hn, ofJson?_toJson] at he
    exact (params_ne_of_name hn he).2 rfl
  · intro hn
    rw [ofJson?_toFlatJson h hn, ofJson?_toJson]
  · intro text hn
    refine ⟨ofJson?_toFlatJson_of_name hn, fun other ho => ?_⟩
    rw [ofJson?_toFlatJson_of_name hn] at ho
    exact params_ne_of_name hn ho

/-- A level under its second name, in both shapes. -/
theorem shapes_agree_iff_value :
    let intent : Intent := .single "volume" "value" (.ofInt 30)
    "action" ∉ intent.params.map Prod.fst ∧ ofJson? intent.toFlatJson = ofJson? intent.toJson := by
  intro intent
  have ha : "action" ∉ intent.params.map Prod.fst := by decide
  have hn : ∀ text, Json.member? "name" intent.params ≠ some (.string text) := by
    intro text hn
    simp [intent, single, Json.ofInt] at hn
  exact ⟨ha, (shapes_agree_iff ha).2.1.mpr hn⟩

/-- The launch of an application under `name`, the second key for it, which the flat shape takes for the name of an
unknown action. -/
theorem flat_launch_by_name :
    let intent : Intent := .single "launch" "name" (.string "firefox")
    "action" ∉ intent.params.map Prod.fst ∧ ofJson? intent.toFlatJson ≠ ofJson? intent.toJson ∧
      (ofJson? intent.toJson).map Action.ofIntent = some (.ok (.launch "firefox")) ∧
      (ofJson? intent.toFlatJson).map Action.ofIntent = some (.error .unknownAction) := by
  intro intent
  have hnamed : (ofJson? intent.toJson).map Action.ofIntent = some (.ok (.launch "firefox")) := by decide +kernel
  have hflat : (ofJson? intent.toFlatJson).map Action.ofIntent = some (.error .unknownAction) := by decide +kernel
  refine ⟨by decide, fun he => ?_, hnamed, hflat⟩
  rw [he, hnamed] at hflat
  simp at hflat

end Intent

end DeviceAgent
