/-!
The quantities on which the contents of two tracks may differ.
-/

namespace ViewPoints

inductive ContentKind where
  | modeOfFlight
  | climbRate
  | modeC
  | position
  | velocity
  | wgs
  | acceleration
  | baroAltitude
  | geomAltitude
  | heading
  | status
  | mode3A
  | mode2
  deriving DecidableEq

namespace ContentKind

def abbreviation : ContentKind → String
  | modeOfFlight => "MOF"
  | climbRate => "ROCD"
  | modeC => "TMC"
  | position => "POS"
  | velocity => "VEL"
  | wgs => "WGS"
  | acceleration => "ACC"
  | baroAltitude => "BH"
  | geomAltitude => "GH"
  | heading => "HDG"
  | status => "STA"
  | mode3A => "M3A"
  | mode2 => "M2"

/-- The database object, and its variables, worth showing beside the deviation. -/
def contextVariables : ContentKind → Option (String × List String)
  | modeOfFlight => some ("Tracker", ["mof_long", "mof_trans", "mof_vert"])
  | climbRate => some ("Tracker", ["calc_vertical_rate_ftm"])
  | modeC => some ("Tracker", ["modec_code_ft"])
  | velocity => some ("Tracker", ["groundspeed_kt"])
  | wgs => some ("Meta", ["pos_lat_deg", "pos_long_deg"])
  | acceleration => some ("Meta", ["accel_ax_ms2", "accel_ay_ms2"])
  | baroAltitude => some ("Meta", ["alt_baro_ft"])
  | geomAltitude => some ("Meta", ["alt_geo_ft"])
  | heading => some ("Meta", ["heading_deg"])
  | mode3A => some ("Tracker", ["mode3a_code"])
  | mode2 => some ("Tracker", ["mode2_code"])
  | position => none
  | status => none

end ContentKind

end ViewPoints
