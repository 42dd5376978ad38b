import Daylight.Time.Zone

/-!
# The named zones

The zones that are known by name, with the changes of their offsets. Where the daylight-saving rule
of a zone begins at an instant without a change of offset, that instant is recorded as a change to
the same offset, so that the rule governs only what lies behind it.
-/

namespace Daylight.Atlas

/-- The zone UTC. -/
def utc : Region where
  name := "UTC"
  before := 0
  recorded := []
  yearly := none

/-- The zone Asia/Tokyo. -/
def asiaTokyo : Region where
  name := "Asia/Tokyo"
  before := 33539
  recorded :=
    [(-2587712400, 32400), (-683802000, 36000), (-672310800, 32400), (-654771600, 36000),
      (-640861200, 32400), (-620298000, 36000), (-609411600, 32400), (-588848400, 36000),
      (-577962000, 32400)]
  yearly := none

/-- The zone Asia/Kolkata. -/
def asiaKolkata : Region where
  name := "Asia/Kolkata"
  before := 21208
  recorded :=
    [(-3645237208, 21200), (-3155694800, 19270), (-2019705670, 19800), (-891581400, 23400),
      (-872058600, 19800), (-862637400, 23400), (-764145000, 19800)]
  yearly := none

/-- The zone Asia/Kathmandu. -/
def asiaKathmandu : Region where
  name := "Asia/Kathmandu"
  before := 20476
  recorded :=
    [(-1577943676, 19800), (504901800, 20700)]
  yearly := none

/-- The zone Pacific/Kiritimati. -/
def pacificKiritimati : Region where
  name := "Pacific/Kiritimati"
  before := -37760
  recorded :=
    [(-2177415040, -38400), (307622400, -36000), (788868000, 50400)]
  yearly := none

/-- The zone Pacific/Pago Pago. -/
def pacificPagoPago : Region where
  name := "Pacific/Pago_Pago"
  before := 45432
  recorded :=
    [(-2445424632, -40968), (-1861879032, -39600)]
  yearly := none

/-- The zone Pacific/Honolulu. -/
def pacificHonolulu : Region where
  name := "Pacific/Honolulu"
  before := -37886
  recorded :=
    [(-2334101314, -37800), (-1157283000, -34200), (-1155436200, -37800), (-880198200, -34200),
      (-765376200, -37800), (-712150200, -36000)]
  yearly := none

/-- The zone Etc/GMT+12. -/
def etcGMTPlus12 : Region where
  name := "Etc/GMT+12"
  before := -43200
  recorded := []
  yearly := none

/-- The zone Etc/GMT-14. -/
def etcGMTMinus14 : Region where
  name := "Etc/GMT-14"
  before := 50400
  recorded := []
  yearly := none

/-- The zone Africa/Johannesburg. -/
def africaJohannesburg : Region where
  name := "Africa/Johannesburg"
  before := 6720
  recorded :=
    [(-2458173120, 5400), (-2109288600, 7200), (-860976000, 10800), (-845254800, 7200),
      (-829526400, 10800), (-813805200, 7200)]
  yearly := none

/-- The zone Antarctica/Troll. -/
def antarcticaTroll : Region where
  name := "Antarctica/Troll"
  before := 0
  recorded :=
    [(1108166400, 0)]
  yearly := some ⟨0, 7200, ⟨3, 5, 0, 3600⟩, ⟨10, 5, 0, 10800⟩⟩

/-- The zone America/Caracas. -/
def americaCaracas : Region where
  name := "America/Caracas"
  before := -16064
  recorded :=
    [(-2524505536, -16060), (-1826739140, -16200), (-157750200, -14400), (1197183600, -16200),
      (1462086000, -14400)]
  yearly := none

/-- The zone America/Los Angeles. -/
def americaLosAngeles : Region where
  name := "America/Los_Angeles"
  before := -28800
  recorded :=
    [(954669600, -25200), (972810000, -28800), (986119200, -25200), (1004259600, -28800),
      (1018173600, -25200), (1035709200, -28800), (1049623200, -25200), (1067158800, -28800),
      (1081072800, -25200), (1099213200, -28800), (1112522400, -25200), (1130662800, -28800),
      (1143972000, -25200), (1162112400, -28800), (1173607200, -25200)]
  yearly := some ⟨-28800, -25200, ⟨3, 2, 0, 7200⟩, ⟨11, 1, 0, 7200⟩⟩

/-- The zone America/New York. -/
def americaNewYork : Region where
  name := "America/New_York"
  before := -18000
  recorded :=
    [(954658800, -14400), (972799200, -18000), (986108400, -14400), (1004248800, -18000),
      (1018162800, -14400), (1035698400, -18000), (1049612400, -14400), (1067148000, -18000),
      (1081062000, -14400), (1099202400, -18000), (1112511600, -14400), (1130652000, -18000),
      (1143961200, -14400), (1162101600, -18000), (1173596400, -14400)]
  yearly := some ⟨-18000, -14400, ⟨3, 2, 0, 7200⟩, ⟨11, 1, 0, 7200⟩⟩

/-- The zone America/St Johns. -/
def americaStJohns : Region where
  name := "America/St_Johns"
  before := -12600
  recorded :=
    [(954646260, -9000), (972786660, -12600), (986095860, -9000), (1004236260, -12600),
      (1018150260, -9000), (1035685860, -12600), (1049599860, -9000), (1067135460, -12600),
      (1081049460, -9000), (1099189860, -12600), (1112499060, -9000), (1130639460, -12600),
      (1143948660, -9000), (1162089060, -12600), (1173583860, -9000), (1194143460, -12600),
      (1205033460, -9000), (1225593060, -12600), (1236483060, -9000), (1257042660, -12600),
      (1268537460, -9000), (1289097060, -12600), (1299987060, -9000), (1320114600, -9000)]
  yearly := some ⟨-12600, -9000, ⟨3, 2, 0, 7200⟩, ⟨11, 1, 0, 7200⟩⟩

/-- The zone Europe/London. -/
def europeLondon : Region where
  name := "Europe/London"
  before := 0
  recorded := []
  yearly := some ⟨0, 3600, ⟨3, 5, 0, 3600⟩, ⟨10, 5, 0, 7200⟩⟩

/-- The zone Europe/Oslo. -/
def europeOslo : Region where
  name := "Europe/Oslo"
  before := 7200
  recorded := []
  yearly := some ⟨3600, 7200, ⟨3, 5, 0, 7200⟩, ⟨10, 5, 0, 10800⟩⟩

/-- The zone Europe/Dublin. -/
def europeDublin : Region where
  name := "Europe/Dublin"
  before := 3600
  recorded := []
  yearly := some ⟨3600, 0, ⟨10, 5, 0, 7200⟩, ⟨3, 5, 0, 3600⟩⟩

/-- The zone Europe/Moscow. -/
def europeMoscow : Region where
  name := "Europe/Moscow"
  before := 10800
  recorded :=
    [(954025200, 14400), (972774000, 10800), (985474800, 14400), (1004223600, 10800),
      (1017529200, 14400), (1035673200, 10800), (1048978800, 14400), (1067122800, 10800),
      (1080428400, 14400), (1099177200, 10800), (1111878000, 14400), (1130626800, 10800),
      (1143327600, 14400), (1162076400, 10800), (1174777200, 14400), (1193526000, 10800),
      (1206831600, 14400), (1224975600, 10800), (1238281200, 14400), (1256425200, 10800),
      (1269730800, 14400), (1288479600, 10800), (1301180400, 14400), (1414274400, 10800)]
  yearly := none

/-- The zone Asia/Shanghai. -/
def asiaShanghai : Region where
  name := "Asia/Shanghai"
  before := 28800
  recorded := []
  yearly := none

/-- The zone Asia/Pyongyang. -/
def asiaPyongyang : Region where
  name := "Asia/Pyongyang"
  before := 32400
  recorded :=
    [(1439564400, 30600), (1525446000, 32400)]
  yearly := none

/-- The zone Australia/Sydney. -/
def australiaSydney : Region where
  name := "Australia/Sydney"
  before := 39600
  recorded :=
    [(954000000, 36000), (967305600, 39600), (985449600, 36000), (1004198400, 39600),
      (1017504000, 36000), (1035648000, 39600), (1048953600, 36000), (1067097600, 39600),
      (1080403200, 36000), (1099152000, 39600), (1111852800, 36000), (1130601600, 39600),
      (1143907200, 36000), (1162051200, 39600), (1174752000, 36000), (1193500800, 39600),
      (1207411200, 36000)]
  yearly := some ⟨36000, 39600, ⟨10, 1, 0, 7200⟩, ⟨4, 1, 0, 10800⟩⟩

/-- The zone Australia/Lord Howe. -/
def australiaLordHowe : Region where
  name := "Australia/Lord_Howe"
  before := 39600
  recorded :=
    [(953996400, 37800), (967303800, 39600), (985446000, 37800), (1004196600, 39600),
      (1017500400, 37800), (1035646200, 39600), (1048950000, 37800), (1067095800, 39600),
      (1080399600, 37800), (1099150200, 39600), (1111849200, 37800), (1130599800, 39600),
      (1143903600, 37800), (1162049400, 39600), (1174748400, 37800), (1193499000, 39600),
      (1207407600, 37800)]
  yearly := some ⟨37800, 39600, ⟨10, 1, 0, 7200⟩, ⟨4, 1, 0, 7200⟩⟩

/-- The zone Australia/Eucla. -/
def australiaEucla : Region where
  name := "Australia/Eucla"
  before := 31500
  recorded :=
    [(1165079700, 35100), (1174756500, 31500), (1193505300, 35100), (1206810900, 31500),
      (1224954900, 35100), (1238260500, 31500)]
  yearly := none

/-- The zone Pacific/Auckland. -/
def pacificAuckland : Region where
  name := "Pacific/Auckland"
  before := 46800
  recorded :=
    [(953388000, 43200), (970322400, 46800), (984837600, 43200), (1002376800, 46800),
      (1016287200, 43200), (1033826400, 46800), (1047736800, 43200), (1065276000, 46800),
      (1079791200, 43200), (1096725600, 46800), (1111240800, 43200), (1128175200, 46800),
      (1142690400, 43200), (1159624800, 46800), (1174140000, 43200), (1191074400, 46800)]
  yearly := some ⟨43200, 46800, ⟨9, 5, 0, 7200⟩, ⟨4, 1, 0, 10800⟩⟩

/-- The zone Pacific/Chatham. -/
def pacificChatham : Region where
  name := "Pacific/Chatham"
  before := 49500
  recorded :=
    [(953388000, 45900), (970322400, 49500), (984837600, 45900), (1002376800, 49500),
      (1016287200, 45900), (1033826400, 49500), (1047736800, 45900), (1065276000, 49500),
      (1079791200, 45900), (1096725600, 49500), (1111240800, 45900), (1128175200, 49500),
      (1142690400, 45900), (1159624800, 49500), (1174140000, 45900), (1191074400, 49500)]
  yearly := some ⟨45900, 49500, ⟨9, 5, 0, 9900⟩, ⟨4, 1, 0, 13500⟩⟩

/-- The zone Pacific/Apia. -/
def pacificApia : Region where
  name := "Pacific/Apia"
  before := -39600
  recorded :=
    [(1285498800, -36000), (1301752800, -39600), (1316872800, -36000), (1325239200, 50400),
      (1333202400, 46800), (1348927200, 50400), (1365256800, 46800), (1380376800, 50400),
      (1396706400, 46800), (1411826400, 50400), (1428156000, 46800), (1443276000, 50400),
      (1459605600, 46800), (1474725600, 50400), (1491055200, 46800), (1506175200, 50400),
      (1522504800, 46800), (1538229600, 50400), (1554559200, 46800), (1569679200, 50400),
      (1586008800, 46800), (1601128800, 50400), (1617458400, 46800)]
  yearly := none

/-- The zone Asia/Jerusalem. -/
def asiaJerusalem : Region where
  name := "Asia/Jerusalem"
  before := 7200
  recorded :=
    [(955670400, 10800), (970783200, 7200), (986770800, 10800), (1001282400, 7200),
      (1017356400, 10800), (1033941600, 7200), (1048806000, 10800), (1065132000, 7200),
      (1081292400, 10800), (1095804000, 7200), (1112313600, 10800), (1128812400, 7200),
      (1143763200, 10800), (1159657200, 7200), (1175212800, 10800), (1189897200, 7200),
      (1206662400, 10800), (1223161200, 7200), (1238112000, 10800), (1254006000, 7200),
      (1269561600, 10800), (1284246000, 7200), (1301616000, 10800), (1317510000, 7200),
      (1333065600, 10800), (1348354800, 7200), (1364515200, 10800)]
  yearly := some ⟨7200, 10800, ⟨3, 4, 4, 93600⟩, ⟨10, 5, 0, 7200⟩⟩

/-- The zone America/Nuuk. -/
def americaNuuk : Region where
  name := "America/Nuuk"
  before := -10800
  recorded :=
    [(954032400, -7200), (972781200, -10800), (985482000, -7200), (1004230800, -10800),
      (1017536400, -7200), (1035680400, -10800), (1048986000, -7200), (1067130000, -10800),
      (1080435600, -7200), (1099184400, -10800), (1111885200, -7200), (1130634000, -10800),
      (1143334800, -7200), (1162083600, -10800), (1174784400, -7200), (1193533200, -10800),
      (1206838800, -7200), (1224982800, -10800), (1238288400, -7200), (1256432400, -10800),
      (1269738000, -7200), (1288486800, -10800), (1301187600, -7200), (1319936400, -10800),
      (1332637200, -7200), (1351386000, -10800), (1364691600, -7200), (1382835600, -10800),
      (1396141200, -7200), (1414285200, -10800), (1427590800, -7200), (1445734800, -10800),
      (1459040400, -7200), (1477789200, -10800), (1490490000, -7200), (1509238800, -10800),
      (1521939600, -7200), (1540688400, -10800), (1553994000, -7200), (1572138000, -10800),
      (1585443600, -7200), (1603587600, -10800), (1616893200, -7200), (1635642000, -10800),
      (1648342800, -7200), (1667091600, -10800), (1679792400, -7200), (1698541200, -7200)]
  yearly := some ⟨-7200, -3600, ⟨3, 5, 0, -3600⟩, ⟨10, 5, 0, 0⟩⟩

/-- All named zones. -/
def regions : List Region :=
  [utc, asiaTokyo, asiaKolkata, asiaKathmandu, pacificKiritimati, pacificPagoPago,
    pacificHonolulu, etcGMTPlus12, etcGMTMinus14, africaJohannesburg, antarcticaTroll,
    americaCaracas, americaLosAngeles, americaNewYork, americaStJohns, europeLondon, europeOslo,
    europeDublin, europeMoscow, asiaShanghai, asiaPyongyang, australiaSydney, australiaLordHowe,
    australiaEucla, pacificAuckland, pacificChatham, pacificApia, asiaJerusalem, americaNuuk]

/-- The zone of a name; upper and lower case differ. -/
def find? (name : String) : Option Region := regions.find? fun r => r.name = name

end Daylight.Atlas
