import BulkProvision.Document.Basic

/-!
# Analytics reports

The read-only reports over provisioned collections.  A report is a fixed aggregation pipeline over
one collection; it relies on measurements that are numbers and on dates written `YYYY-MM-DD`.
-/

namespace BulkProvision

namespace Analytics

open Document

/-- A report: a pipeline over one collection. -/
structure Report where
  name : String
  collection : String
  description : String
  pipeline : List Document

/-! ### Building blocks -/

/-- An operator applied to arguments. -/
def apply (operator : String) (arguments : List Value) : Value :=
  .single operator (.array arguments)

/-- A value rounded to one place. -/
def rounded (value : Value) : Value := apply "$round" [value, 1]

/-- The number of members of a group. -/
def memberCount : Value := .single "$sum" 1

/-- The number of members of a group that meet a condition. -/
def countIf (condition : Value) : Value := .single "$sum" (apply "$cond" [condition, 1, 0])

/-- Whether the month of a reading lies from the first month given to before the second. -/
def monthBetween (low high : Int) : Value :=
  apply "$and"
    [apply "$gte" [month, .int32 low], apply "$lt" [month, .int32 high]]
where
  /-- The month of a reading. -/
  month : Value := .single "$month" "$date_obj"

/-- A season and the months it lasts. -/
def seasonBranch (low high : Int) (season : String) : Value :=
  .document [("case", monthBetween low high), ("then", season)]

/-! ### The reports -/

/-- Average temperature and precipitation per location and kind of event, for groups of more than
one reading. -/
def locationEvents : Report where
  name := "location-events"
  collection := "globalClimate"
  description := "average temperature and precipitation by location and event type"
  pipeline :=
    [[("$match", .single "event_type" (.single "$exists" (.bool true)))],
      [("$group", .document
        [("_id", .document [("location", "$location"), ("event_type", "$event_type")]),
          ("avg_temp", .single "$avg" "$temperature_c"),
          ("avg_precip", .single "$avg" "$precipitation_mm"),
          ("count", memberCount)])],
      [("$match", .single "count" (.single "$gt" 1))],
      [("$sort", .single "avg_temp" (.int32 (-1)))],
      [("$project", .document
        [("_id", 0),
          ("location", "$_id.location"),
          ("event_type", "$_id.event_type"),
          ("avg_temperature_c", rounded "$avg_temp"),
          ("avg_precipitation_mm", rounded "$avg_precip"),
          ("event_count", "$count")])]]

/-- Conditions per meteorological season of the northern hemisphere and kind of event. -/
def seasons : Report where
  name := "seasons"
  collection := "globalClimate"
  description := "conditions per season and event type"
  pipeline :=
    [[("$addFields", .single "date_obj" (.single "$dateFromString" (.document
        [("dateString", "$date"), ("format", "%Y-%m-%d")])))],
      [("$addFields", .single "season" (.single "$switch" (.document
        [("branches", .array
            [seasonBranch 3 6 "Spring", seasonBranch 6 9 "Summer", seasonBranch 9 12 "Fall"]),
          ("default", "Winter")])))],
      [("$group", .document
        [("_id", .document [("season", "$season"), ("event_type", "$event_type")]),
          ("avg_temp", .single "$avg" "$temperature_c"),
          ("avg_humidity", .single "$avg" "$humidity_percent"),
          ("count", memberCount)])],
      [("$sort", .document [("_id.season", 1), ("count", .int32 (-1))])],
      [("$project", .document
        [("_id", 0),
          ("season", "$_id.season"),
          ("event_type", "$_id.event_type"),
          ("avg_temperature_c", rounded "$avg_temp"),
          ("avg_humidity_percent", rounded "$avg_humidity"),
          ("event_count", "$count")])]]

/-- Locations ranked by their readings past fixed extremes: above 25 °C, below -5 °C, wind over
50 km/h, precipitation over 80 mm. -/
def extremes : Report where
  name := "extremes"
  collection := "usWeatherEvents"
  description := "locations ranked by extreme readings"
  pipeline :=
    [[("$match", apply "$or"
        [.single "temperature_c" (.single "$gt" 25),
          .single "temperature_c" (.single "$lt" (.int32 (-5))),
          .single "wind_speed_kmh" (.single "$gt" 50),
          .single "precipitation_mm" (.single "$gt" 80)])],
      [("$group", .document
        [("_id", "$location"),
          ("extreme_high_temp_events", countIf (apply "$gt" ["$temperature_c", 25])),
          ("extreme_low_temp_events", countIf (apply "$lt" ["$temperature_c", .int32 (-5)])),
          ("high_wind_events", countIf (apply "$gt" ["$wind_speed_kmh", 50])),
          ("heavy_rain_events", countIf (apply "$gt" ["$precipitation_mm", 80])),
          ("max_temp", .single "$max" "$temperature_c"),
          ("min_temp", .single "$min" "$temperature_c"),
          ("max_wind", .single "$max" "$wind_speed_kmh"),
          ("max_precip", .single "$max" "$precipitation_mm")])],
      [("$addFields", .single "total_extreme_events" (apply "$add"
        ["$extreme_high_temp_events", "$extreme_low_temp_events", "$high_wind_events",
          "$heavy_rain_events"]))],
      [("$sort", .single "total_extreme_events" (.int32 (-1)))],
      [("$project", .document
        [("_id", 0),
          ("location", "$_id"),
          ("extreme_high_temp_events", 1),
          ("extreme_low_temp_events", 1),
          ("high_wind_events", 1),
          ("heavy_rain_events", 1),
          ("total_extreme_events", 1),
          ("temperature_range", .document
            [("max_c", rounded "$max_temp"), ("min_c", rounded "$min_temp")]),
          ("max_wind_speed_kmh", rounded "$max_wind"),
          ("max_precipitation_mm", rounded "$max_precip")])]]

/-- The reports, in the order they are made. -/
def all : List Report := [locationEvents, seasons, extremes]

/-- The report of that name. -/
def named? (name : String) : Option Report := all.find? (·.name = name)

end Analytics

end BulkProvision
