import MemsHal.SensorsHalAidl
/-!
# HalPlacement — the additional-info report, from the XML files to the frames

The XML data comes from a generated parser, whose `getFirst` is a null pointer for a missing element.  The list of
sensors is dereferenced unchecked, and `setSensorPlacementData` writes where its check of the index has failed, so the
report is the right one exactly if the files have the list, and the indexes of a placement lie in its 14 floats
(`report_right_iff`).
-/
namespace MemsHal
namespace Aidl
namespace HalPlacement

/-! ## The XML data -/

structure XmlOrientation where
  rotate : Bool
  x : List Axis
  y : List Axis
  z : List Axis

structure XmlConfiguration where
  orientation : List XmlOrientation
  location : List Location

structure XmlSensor where
  name : String
  type : Int
  configuration : List XmlConfiguration

structure XmlModule where
  halName : String
  sensors : List (List XmlSensor)

/-- `modules` holds what `get_module` of each returns. -/
structure SensorHalConfiguration where
  modules : List (List XmlModule)

def boschHal (modulesList : List XmlModule) : Option XmlModule := modulesList.find? (·.halName = "bosch-hal")

/-- The list of sensors, if there is one; the outer `none` is a null pointer dereferenced. -/
def readSensorsConfigFromXml : List (Option SensorHalConfiguration) → Option (Option (List XmlSensor))
  | []                         => some none
  | none :: files              => readSensorsConfigFromXml files
  | some sensorConfig :: files =>
    match sensorConfig.modules.head? with
    | none             => none
    | some modulesList =>
      match boschHal modulesList with
      | some found => found.sensors.head?.map some
      | none       => readSensorsConfigFromXml files

def getSensorConfiguration (sensor_list : List XmlSensor) (name : String) (type : SensorType) :
    Option (List XmlConfiguration) :=
  (sensor_list.find? fun sensor => name = sensor.name ∧ type.value = Int32.ofInt sensor.type).map (·.configuration)

/-- The `mConfig` that a sensor is built with; `*sensors_config_list` is not checked. -/
def mConfig? (files : List (Option SensorHalConfiguration)) (name : String) (type : SensorType) :
    Option (Option (List XmlConfiguration)) :=
  match readSensorsConfigFromXml files with
  | some (some sensor_list) => some (getSensorConfiguration sensor_list name type)
  | _                       => none

/-! ## The placement -/

/-- The first location and the first orientation of the first configuration. -/
def firsts (mConfig : Option (List XmlConfiguration)) : Option (Location × XmlOrientation) :=
  match mConfig with
  | some (sensorCfg :: _) =>
    match sensorCfg.location, sensorCfg.orientation with
    | location :: _, orientation :: _ => some (location, orientation)
    | _, _                            => none
  | _ => none

/-- The status of the check of the index is dropped; `none` writes outside of the array. -/
def setSensorPlacementData? (values : Vector Float32Word 14) (entry : Int × Float32Word) :
    Option (Vector Float32Word 14) :=
  if 0 ≤ entry.1 ∧ entry.1 < 14 then some (values.setIfInBounds entry.1.toNat entry.2) else none

/-- The axes of an orientation, `none` if one is missing. -/
def axes? (orientation : XmlOrientation) : Option (Axis × Axis × Axis) :=
  match orientation.x, orientation.y, orientation.z with
  | x :: _, y :: _, z :: _ => some (x, y, z)
  | _, _, _                => none

def rotation? (orientation : XmlOrientation) : Option (List (Int × Float32Word)) :=
  if orientation.rotate then some [(0 + 0, HalSensor.floatOne), (1 + 4, HalSensor.floatOne), (2 + 8, HalSensor.floatOne)]
  else
    (axes? orientation).map fun (x, y, z) =>
      [(HalSensor.rotationIndex 0 x.map, HalSensor.rotationSign x),
        (HalSensor.rotationIndex 1 y.map, HalSensor.rotationSign y),
        (HalSensor.rotationIndex 2 z.map, HalSensor.rotationSign z)]

def locationEntries (location : Location) : List (Int × Float32Word) :=
  [(3, location.x), (7, location.y), (11, location.z)]

def setAll? (entries : List (Int × Float32Word)) : Option (Vector Float32Word 14) :=
  entries.foldlM setSensorPlacementData? (Vector.replicate 14 0)

def placementFrame (values : Vector Float32Word 14) : AdditionalInfo :=
  { type := AdditionalInfoType.sensorPlacement, serial := 0, payload := .dataFloat values }

/-- The frames that `getSensorPlacement` appends. -/
def getSensorPlacement? (mConfig : Option (List XmlConfiguration)) : Option (List AdditionalInfo) :=
  match firsts mConfig with
  | none                         => some []
  | some (location, orientation) =>
    match rotation? orientation with
    | none          => none
    | some rotation => (setAll? (locationEntries location ++ rotation)).map fun values => [placementFrame values]

/-! ## The report -/

def frames? (files : List (Option SensorHalConfiguration)) (name : String) (type : SensorType)
    (temperature : Option Float32Word) : Option (List AdditionalInfo) :=
  match mConfig? files name type with
  | none         => none
  | some mConfig => (getSensorPlacement? mConfig).map fun placement =>
    [{ type := AdditionalInfoType.begin, serial := 0 }] ++ placement ++ HalSensor.getSensorTemperature temperature ++
      [{ type := AdditionalInfoType.end, serial := 0 }]

/-- The events of frames; `elapsed i` is the time read for the frame `i`. -/
def frameEvents (sensorHandle : Int32) (elapsed : Nat → Int64) (frames : List AdditionalInfo) : List Event :=
  frames.mapIdx fun i frame =>
    { timestamp := elapsed i, sensorHandle := sensorHandle, sensorType := .additionalInfo, payload := .additional frame }

/-- The events that a sensor that is built from the files posts, `none` if something goes wrong on the way. -/
def report? (files : List (Option SensorHalConfiguration)) (description : SensorDescription)
    (temperature : Option Float32Word) (elapsed : Nat → Int64) : Option (List Event) :=
  (frames? files description.name description.type temperature).map (frameEvents description.sensorHandle elapsed)

/-! ## The right report -/

/-- The location and the orientation that the files have for a sensor. -/
def configured (files : List (Option SensorHalConfiguration)) (description : SensorDescription) :
    Option (Location × XmlOrientation) :=
  firsts (mConfig? files description.name description.type).join

/-- Where the entries of a rotation belong: the identity, or the sign of each axis at the index that its map gives. -/
def rotationPlaces (orientation : XmlOrientation) : Option (List (Int × Float32Word)) :=
  if orientation.rotate then some [(0 + 0, HalSensor.floatOne), (1 + 4, HalSensor.floatOne), (2 + 8, HalSensor.floatOne)]
  else
    (axes? orientation).map fun (x, y, z) =>
      [(0 + 4 * x.map, HalSensor.rotationSign x), (1 + 4 * y.map, HalSensor.rotationSign y),
        (2 + 4 * z.map, HalSensor.rotationSign z)]

/-- The places lie in the array. -/
def Inside (places : List (Int × Float32Word)) : Prop := ∀ place ∈ places, 0 ≤ place.1 ∧ place.1 < 14

/-- A frame holds values at their places, and zero elsewhere. -/
def Holds (frame : AdditionalInfo) (places : List (Int × Float32Word)) : Prop :=
  ∃ values : Vector Float32Word 14, frame = placementFrame values ∧
    (∀ place ∈ places, values[place.1.toNat]? = some place.2) ∧
    ∀ i : Nat, i < 14 → (i : Int) ∉ places.map Prod.fst → values[i]? = some 0

/-- An orientation and a location exist, with the rotation's places in the array. -/
def Placed (files : List (Option SensorHalConfiguration)) (description : SensorDescription)
    (places : List (Int × Float32Word)) : Prop :=
  ∃ location orientation rotation, configured files description = some (location, orientation) ∧
    rotationPlaces orientation = some rotation ∧ Inside rotation ∧ places = locationEntries location ++ rotation

/-- **The report comes out, and its frames are the right ones.** -/
def Right (files : List (Option SensorHalConfiguration)) (description : SensorDescription)
    (temperature : Option Float32Word) (elapsed : Nat → Int64) : Prop :=
  ∃ placement frames : List AdditionalInfo,
    frames? files description.name description.type temperature = some frames ∧
    report? files description temperature elapsed = some (frameEvents description.sensorHandle elapsed frames) ∧
    frames = [{ type := AdditionalInfoType.begin, serial := 0 }] ++ placement ++
      HalSensor.getSensorTemperature temperature ++ [{ type := AdditionalInfoType.end, serial := 0 }] ∧
    placement.length ≤ 1 ∧
    (placement ≠ [] ↔ ∃ places, Placed files description places) ∧
    ∀ frame ∈ placement, ∃ places, Placed files description places ∧ Holds frame places

/-- The first file with a module of the HAL gives a list of sensors, and no file before it lacks its modules. -/
def HasSensors : List (Option SensorHalConfiguration) → Prop
  | []                         => False
  | none :: files              => HasSensors files
  | some sensorConfig :: files => ∃ modulesList rest, sensorConfig.modules = modulesList :: rest ∧
    match boschHal modulesList with
    | some found => found.sensors ≠ []
    | none       => HasSensors files

/-- The files have the sensors, and an orientation that comes with a location has its axes, with maps in the array. -/
def Complete (files : List (Option SensorHalConfiguration)) (description : SensorDescription) : Prop :=
  HasSensors files ∧ ∀ location orientation, configured files description = some (location, orientation) →
    ∃ rotation, rotationPlaces orientation = some rotation ∧ Inside rotation

/-! ## The list of sensors -/

theorem readSensorsConfigFromXml_iff : ∀ files : List (Option SensorHalConfiguration),
    (∃ sensor_list, readSensorsConfigFromXml files = some (some sensor_list)) ↔ HasSensors files
  | []                         => iff_of_false (fun ⟨_, h⟩ => by cases h) id
  | none :: files              => readSensorsConfigFromXml_iff files
  | some sensorConfig :: files => by
    unfold readSensorsConfigFromXml HasSensors
    cases hmodules : sensorConfig.modules with
    | nil => exact iff_of_false (fun ⟨_, h⟩ => by cases h) fun ⟨_, _, h, _⟩ => by cases h
    | cons modulesList rest =>
      have hfirst : (∃ modulesList' rest', modulesList :: rest = modulesList' :: rest' ∧
          match boschHal modulesList' with
          | some found => found.sensors ≠ []
          | none       => HasSensors files) ↔
          match boschHal modulesList with
          | some found => found.sensors ≠ []
          | none       => HasSensors files := by
        constructor
        · rintro ⟨modulesList', rest', heq, h⟩
          obtain ⟨rfl, rfl⟩ := List.cons.inj heq
          exact h
        · exact fun h => ⟨modulesList, rest, rfl, h⟩
      rw [hfirst]
      dsimp only [List.head?_cons]
      cases boschHal modulesList with
      | none => exact readSensorsConfigFromXml_iff files
      | some found =>
        dsimp only
        cases found.sensors with
        | nil => exact iff_of_false (fun ⟨_, h⟩ => by cases h) fun h => h rfl
        | cons sensors rest => exact iff_of_true ⟨sensors, rfl⟩ (List.cons_ne_nil _ _)

/-- **A sensor can be built** exactly if the files have the sensors. -/
theorem mConfig?_iff (files : List (Option SensorHalConfiguration)) (name : String) (type : SensorType) :
    (∃ mConfig, mConfig? files name type = some mConfig) ↔ HasSensors files := by
  rw [← readSensorsConfigFromXml_iff]
  unfold mConfig?
  constructor
  · rintro ⟨mConfig, h⟩
    split at h
    · rename_i sensor_list hread
      exact ⟨sensor_list, hread⟩
    · cases h
  · rintro ⟨sensor_list, hread⟩
    rw [hread]
    exact ⟨_, rfl⟩

/-! ## The array -/

/-- **Writes in the array at places of their own** leave the values there, and the rest as it was. -/
theorem setAll?_of_inside : ∀ (places : List (Int × Float32Word)) (values : Vector Float32Word 14), Inside places →
    places.Pairwise (fun a b => a.1 ≠ b.1) → ∃ after, places.foldlM setSensorPlacementData? values = some after ∧
      (∀ place ∈ places, after[place.1.toNat]? = some place.2) ∧
      ∀ i : Nat, i < 14 → (i : Int) ∉ places.map Prod.fst → after[i]? = values[i]?
  | [], values, _, _ => ⟨values, rfl, nofun, fun _ _ _ => rfl⟩
  | place :: places, values, hinside, hdistinct => by
    obtain ⟨hplace, hinside⟩ := List.forall_mem_cons.1 hinside
    obtain ⟨hne, hdistinct⟩ := List.pairwise_cons.1 hdistinct
    obtain ⟨after, hafter, hplaces, hrest⟩ := setAll?_of_inside places
      (values.setIfInBounds place.1.toNat place.2) hinside hdistinct
    have hindex : place.1.toNat < 14 := by omega
    refine ⟨after, ?_, List.forall_mem_cons.2 ⟨?_, hplaces⟩, fun i hi hnot => ?_⟩
    · rw [List.foldlM_cons]
      unfold setSensorPlacementData?
      rw [if_pos hplace]
      exact hafter
    · have hnot : (place.1.toNat : Int) ∉ places.map Prod.fst := by
        rw [Int.toNat_of_nonneg hplace.1]
        intro hmem
        obtain ⟨other, hother, heq⟩ := List.mem_map.1 hmem
        exact hne other hother heq.symm
      rw [hrest _ hindex hnot, Vector.getElem?_setIfInBounds, if_pos rfl, if_pos hindex]
    · rw [List.map_cons, List.mem_cons, not_or] at hnot
      rw [hrest i hi hnot.2, Vector.getElem?_setIfInBounds, if_neg]
      intro heq
      exact hnot.1 (by omega)

/-- The places of a rotation are one in each of three columns. -/
theorem rotationPlaces_columns {orientation : XmlOrientation} {rotation : List (Int × Float32Word)}
    (h : rotationPlaces orientation = some rotation) : ∃ a b c : Int, ∃ x y z : Float32Word,
      rotation = [(0 + 4 * a, x), (1 + 4 * b, y), (2 + 4 * c, z)] := by
  unfold rotationPlaces at h
  split at h
  · obtain rfl := Option.some.inj h
    exact ⟨0, 1, 2, _, _, _, rfl⟩
  · obtain ⟨⟨x, y, z⟩, -, rfl⟩ := Option.map_eq_some_iff.1 h
    exact ⟨x.map, y.map, z.map, _, _, _, rfl⟩

theorem pairwise_places (location : Location) {orientation : XmlOrientation} {rotation : List (Int × Float32Word)}
    (h : rotationPlaces orientation = some rotation) :
    (locationEntries location ++ rotation).Pairwise (fun a b => a.1 ≠ b.1) := by
  obtain ⟨a, b, c, x, y, z, rfl⟩ := rotationPlaces_columns h
  simp only [locationEntries, List.cons_append, List.nil_append, List.pairwise_cons, List.mem_cons, List.not_mem_nil,
    or_false, forall_eq_or_imp, forall_eq, List.Pairwise.nil, and_true, IsEmpty.forall_iff, implies_true]
  omega

/-- **In the array an index is passed on as it is.** -/
theorem rotation?_of_inside {orientation : XmlOrientation} {rotation : List (Int × Float32Word)}
    (h : rotationPlaces orientation = some rotation) (hinside : Inside rotation) :
    rotation? orientation = some rotation := by
  have hindex : ∀ start map : Int, 0 ≤ start + 4 * map → start + 4 * map < 14 →
      HalSensor.rotationIndex start map = start + 4 * map := fun start map hlow hhigh =>
    Int32.toInt_ofInt_of_le (by omega) (by omega)
  unfold rotationPlaces at h
  unfold rotation?
  split at h
  · rename_i hrotate
    rw [if_pos hrotate]
    exact h
  · rename_i hrotate
    rw [if_neg hrotate]
    obtain ⟨⟨x, y, z⟩, haxes, rfl⟩ := Option.map_eq_some_iff.1 h
    obtain ⟨hx, hinside⟩ := List.forall_mem_cons.1 hinside
    obtain ⟨hy, hinside⟩ := List.forall_mem_cons.1 hinside
    obtain ⟨hz, -⟩ := List.forall_mem_cons.1 hinside
    rw [haxes, Option.map_some]
    dsimp only
    rw [hindex 0 x.map hx.1 hx.2, hindex 1 y.map hy.1 hy.2, hindex 2 z.map hz.1 hz.2]

theorem inside_location (location : Location) : Inside (locationEntries location) := by
  unfold Inside locationEntries
  simp

theorem exists_placement (location : Location) {orientation : XmlOrientation} {rotation : List (Int × Float32Word)}
    (h : rotationPlaces orientation = some rotation) (hinside : Inside rotation) :
    ∃ values, setAll? (locationEntries location ++ rotation) = some values ∧
      Holds (placementFrame values) (locationEntries location ++ rotation) := by
  have hall : Inside (locationEntries location ++ rotation) :=
    List.forall_mem_append.2 ⟨inside_location location, hinside⟩
  obtain ⟨values, hvalues, hplaces, hrest⟩ :=
    setAll?_of_inside _ (Vector.replicate 14 0) hall (pairwise_places location h)
  refine ⟨values, hvalues, values, rfl, hplaces, fun i hi hnot => ?_⟩
  rw [hrest i hi hnot, Vector.getElem?_replicate, if_pos hi]

/-! ## When the report is right -/

theorem getSensorPlacement?_of_firsts {mConfig : Option (List XmlConfiguration)} {location : Location}
    {orientation : XmlOrientation} (h : firsts mConfig = some (location, orientation)) {placement : List AdditionalInfo}
    (hplacement : getSensorPlacement? mConfig = some placement) : placement ≠ [] := by
  unfold getSensorPlacement? at hplacement
  rw [h] at hplacement
  dsimp only at hplacement
  split at hplacement
  · cases hplacement
  · obtain ⟨values, -, rfl⟩ := Option.map_eq_some_iff.1 hplacement
    exact List.cons_ne_nil _ _

theorem complete_of_right {files : List (Option SensorHalConfiguration)} {description : SensorDescription}
    {temperature : Option Float32Word} {elapsed : Nat → Int64} (h : Right files description temperature elapsed) :
    Complete files description := by
  obtain ⟨placement, frames, hframes, -, heq, -, hiff, -⟩ := h
  unfold frames? at hframes
  split at hframes
  · cases hframes
  · rename_i mConfig hmConfig
    obtain ⟨placement', hplacement, rfl⟩ := Option.map_eq_some_iff.1 hframes
    obtain rfl : placement' = placement :=
      List.append_cancel_left (List.append_cancel_right (List.append_cancel_right heq))
    refine ⟨(mConfig?_iff files description.name description.type).1 ⟨mConfig, hmConfig⟩,
      fun location orientation hconfigured => ?_⟩
    have hfirsts : firsts mConfig = some (location, orientation) := by
      unfold configured at hconfigured
      rwa [hmConfig] at hconfigured
    obtain ⟨places, location', orientation', rotation, hconfigured', hrotation, hinside, -⟩ :=
      hiff.1 (getSensorPlacement?_of_firsts hfirsts hplacement)
    obtain ⟨rfl, rfl⟩ := Prod.mk.inj (Option.some.inj (hconfigured.symm.trans hconfigured'))
    exact ⟨rotation, hrotation, hinside⟩

theorem exists_getSensorPlacement {files : List (Option SensorHalConfiguration)} {description : SensorDescription}
    {mConfig : Option (List XmlConfiguration)} (hconfigured : configured files description = firsts mConfig)
    (hcomplete : ∀ location orientation, firsts mConfig = some (location, orientation) →
      ∃ rotation, rotationPlaces orientation = some rotation ∧ Inside rotation) :
    ∃ placement, getSensorPlacement? mConfig = some placement ∧ placement.length ≤ 1 ∧
      (placement ≠ [] ↔ ∃ places, Placed files description places) ∧
      ∀ frame ∈ placement, ∃ places, Placed files description places ∧ Holds frame places := by
  unfold getSensorPlacement?
  cases hfirsts : firsts mConfig with
  | none =>
    refine ⟨[], rfl, Nat.zero_le 1, iff_of_false (fun h => h rfl) ?_, nofun⟩
    rintro ⟨places, location, orientation, rotation, hconfigured', -⟩
    rw [hconfigured, hfirsts] at hconfigured'
    cases hconfigured'
  | some first =>
    obtain ⟨location, orientation⟩ := first
    obtain ⟨rotation, hrotation, hinside⟩ := hcomplete location orientation hfirsts
    obtain ⟨values, hvalues, hholds⟩ := exists_placement location hrotation hinside
    have hplaced : Placed files description (locationEntries location ++ rotation) :=
      ⟨location, orientation, rotation, hconfigured.trans hfirsts, hrotation, hinside, rfl⟩
    dsimp only
    rw [rotation?_of_inside hrotation hinside]
    dsimp only
    rw [hvalues]
    refine ⟨[placementFrame values], rfl, le_rfl, iff_of_true (List.cons_ne_nil _ _) ⟨_, hplaced⟩, ?_⟩
    exact List.forall_mem_singleton.2 ⟨_, hplaced, hholds⟩

theorem right_of_complete {files : List (Option SensorHalConfiguration)} {description : SensorDescription}
    (h : Complete files description) (temperature : Option Float32Word) (elapsed : Nat → Int64) :
    Right files description temperature elapsed := by
  obtain ⟨hsensors, hcomplete⟩ := h
  obtain ⟨mConfig, hmConfig⟩ := (mConfig?_iff files description.name description.type).2 hsensors
  have hconfigured : configured files description = firsts mConfig := by
    unfold configured
    rw [hmConfig]
    rfl
  rw [hconfigured] at hcomplete
  obtain ⟨placement, hplacement, hlength, hiff, hholds⟩ := exists_getSensorPlacement hconfigured hcomplete
  refine ⟨placement, _, ?_, ?_, rfl, hlength, hiff, hholds⟩
  · unfold frames?
    rw [hmConfig]
    dsimp only
    rw [hplacement]
    rfl
  · unfold report? frames?
    rw [hmConfig]
    dsimp only
    rw [hplacement]
    rfl

/-- **The report of a sensor is right** exactly if the configuration files are complete: `odm` is read before
`vendor`. -/
theorem report_right_iff (odm vendor : Option SensorHalConfiguration) (description : SensorDescription)
    (temperature : Option Float32Word) (elapsed : Nat → Int64) :
    Right [odm, vendor] description temperature elapsed ↔ Complete [odm, vendor] description :=
  ⟨complete_of_right, fun h => right_of_complete h temperature elapsed⟩

/-- A sensor of the SMI330. -/
def smi330 : SensorDescription :=
  { sensorHandle := 1, name := "SMI330 BOSCH Accelerometer Sensor", type := .accelerometer, flags := 0,
    delays := ⟨5000, 1280000⟩ }

/-- Its file, with a map of the y axis. -/
def smi330Config (map : Int) : SensorHalConfiguration where
  modules := [[{
    halName := "bosch-hal"
    sensors := [[{
      name := "SMI330 BOSCH Accelerometer Sensor"
      type := 1
      configuration := [{
        orientation := [{ rotate := false, x := [⟨0, false⟩], y := [⟨map, true⟩], z := [⟨2, false⟩] }]
        location := [⟨0, 0, 0⟩] }] }]] }]]

theorem inside_of_right_smi330Config {map : Int}
    (h : Right [none, some (smi330Config map)] smi330 none (fun _ => 0)) : 1 + 4 * map < 14 := by
  obtain ⟨rotation, hrotation, hinside⟩ := (complete_of_right h).2 ⟨0, 0, 0⟩
    { rotate := false, x := [⟨0, false⟩], y := [⟨map, true⟩], z := [⟨2, false⟩] } rfl
  obtain rfl := Option.some.inj hrotation
  exact (hinside (1 + 4 * map, _) (List.mem_cons_of_mem _ List.mem_cons_self)).2

/-- No file; a map of 4, which is written outside of the array; and a map of `2 ^ 30`, which becomes the index 1. -/
theorem not_report_right_noFile :
    (¬ Right [none, none] smi330 none fun _ => 0) ∧
    (¬ Right [none, some (smi330Config 4)] smi330 none fun _ => 0) ∧
    ¬ Right [none, some (smi330Config (2 ^ 30))] smi330 none fun _ => 0 := by
  refine ⟨fun h => (complete_of_right h).1, fun h => ?_, fun h => ?_⟩
  · exact absurd (inside_of_right_smi330Config h) (by decide)
  · exact absurd (inside_of_right_smi330Config h) (by decide)

/-! ## The report of `SensorsHalAidl` -/

section Report

def XmlOrientation.toOrientation (orientation : XmlOrientation) : Orientation where
  rotate := orientation.rotate
  firstX := orientation.x.headD ⟨0, false⟩
  firstY := orientation.y.headD ⟨0, false⟩
  firstZ := orientation.z.headD ⟨0, false⟩

def XmlConfiguration.toConfiguration (sensorCfg : XmlConfiguration) : Configuration where
  location := sensorCfg.location
  orientation := sensorCfg.orientation.map XmlOrientation.toOrientation

/-- A sensor with what the files have for it. -/
def withConfig (sensor : HalSensor) (mConfig : Option (List XmlConfiguration)) : HalSensor :=
  { sensor with description :=
      { sensor.description with mConfig := mConfig.map (·.map XmlConfiguration.toConfiguration) } }

theorem setAll?_eq_some : ∀ {entries : List (Int × Float32Word)} {values after : Vector Float32Word 14},
    entries.foldlM setSensorPlacementData? values = some after →
    entries.foldl (fun values entry => HalSensor.setSensorPlacementData values entry.1 entry.2) values = after
  | [], _, _, h => Option.some.inj h
  | entry :: entries, values, after, h => by
    rw [List.foldlM_cons] at h
    obtain ⟨next, hnext, hrest⟩ := Option.bind_eq_some_iff.1 h
    unfold setSensorPlacementData? at hnext
    split at hnext
    · rename_i hinside
      obtain rfl := Option.some.inj hnext
      rw [List.foldl_cons]
      unfold HalSensor.setSensorPlacementData
      rw [if_neg (by omega)]
      exact setAll?_eq_some hrest
    · cases hnext

theorem rotation?_eq_some {orientation : XmlOrientation} {rotation : List (Int × Float32Word)}
    (h : rotation? orientation = some rotation) : HalSensor.rotationEntries orientation.toOrientation = rotation := by
  unfold rotation? at h
  unfold HalSensor.rotationEntries
  split at h
  · rename_i hrotate
    rw [if_pos (show orientation.toOrientation.rotate = true from hrotate)]
    exact Option.some.inj h
  · rename_i hrotate
    rw [if_neg (show ¬ orientation.toOrientation.rotate = true from hrotate)]
    obtain ⟨⟨x, y, z⟩, haxes, rfl⟩ := Option.map_eq_some_iff.1 h
    unfold axes? at haxes
    unfold XmlOrientation.toOrientation
    split at haxes
    · rename_i hx hy hz
      obtain ⟨rfl, rfl, rfl⟩ : _ ∧ _ ∧ _ := by simpa using haxes
      rw [hx, hy, hz]
      rfl
    · cases haxes

theorem getSensorPlacement_withConfig (sensor : HalSensor) : ∀ {mConfig : Option (List XmlConfiguration)}
    {placement : List AdditionalInfo}, getSensorPlacement? mConfig = some placement →
    (withConfig sensor mConfig).getSensorPlacement = placement
  | none, _, h | some [], _, h => Option.some.inj h
  | some (⟨_, []⟩ :: _), _, h | some (⟨[], _ :: _⟩ :: _), _, h => Option.some.inj h
  | some (⟨orientation :: orientations, location :: locations⟩ :: rest), placement, h => by
    have hfirsts : firsts (some (⟨orientation :: orientations, location :: locations⟩ :: rest)) =
        some (location, orientation) := rfl
    unfold getSensorPlacement? at h
    rw [hfirsts] at h
    dsimp only at h
    split at h
    · cases h
    · rename_i rotation hrotation
      obtain ⟨values, hvalues, rfl⟩ := Option.map_eq_some_iff.1 h
      have hentries : HalSensor.rotationEntries orientation.toOrientation = rotation := rotation?_eq_some hrotation
      have hfold : (locationEntries location ++ HalSensor.rotationEntries orientation.toOrientation).foldl
          (fun values entry => HalSensor.setSensorPlacementData values entry.1 entry.2) (Vector.replicate 14 0) =
          values := by
        rw [hentries]
        exact setAll?_eq_some hvalues
      exact congrArg (fun values => [placementFrame values]) hfold

/-- **A report that comes out is the report of the sensor** that is built with what the files have for it. -/
theorem additionalInfoEvents_of_report? {files : List (Option SensorHalConfiguration)} {sensor : HalSensor}
    {temperature : Option Float32Word} {elapsed : Nat → Int64} {events : List Event}
    (h : report? files sensor.description temperature elapsed = some events) :
    (withConfig sensor (mConfig? files sensor.description.name sensor.description.type).join).additionalInfoEvents
      temperature elapsed = events := by
  obtain ⟨frames, hframes, rfl⟩ := Option.map_eq_some_iff.1 h
  unfold frames? at hframes
  split at hframes
  · cases hframes
  · rename_i mConfig hconfig
    obtain ⟨placement, hplacement, rfl⟩ := Option.map_eq_some_iff.1 hframes
    rw [hconfig]
    unfold HalSensor.additionalInfoEvents HalSensor.additionalInfoFrames
    rw [Option.join_some, getSensorPlacement_withConfig sensor hplacement]
    rfl

end Report

end HalPlacement
end Aidl
end MemsHal
