/-!
# Changes of the clocks

For each zone the seconds at which its clocks changed, with the offset from then on. The changes are
ascending; what holds before the first one is local mean time.

The tables hold no negative numbers: seconds count from the start of 1850, and offsets from a clock
that is a day behind UTC. `changes` counts them the usual way, from the epoch and from UTC.
-/

namespace Itinerary.Time.ZoneTable

/-- The seconds from the start of 1850 to the epoch. -/
def beforeEpoch : Nat := 3786825600

/-- The seconds by which a clock is behind UTC that is a whole day behind. -/
def dayBehind : Nat := 86400

/-- The changes in a table, in seconds since the epoch, with the seconds east of UTC from then on.
-/
def changes (table : List (Nat × Nat)) : List (Int × Int) :=
  table.map fun (second, offset) => ((second : Int) - beforeEpoch, (offset : Int) - dayBehind)

/-- Berlin before the common European rule of 1996. -/
def berlin : List (Nat × Nat) := [
  (1364771192, 90000), (2093119200, 93600), (2106342000, 90000), (2123370000, 93600),
  (2136675600, 90000), (2154819600, 93600), (2168125200, 90000), (2847920400, 93600),
  (2929568400, 90000), (2942269200, 93600), (2958598800, 90000), (2974323600, 93600),
  (2990048400, 90000), (3005773200, 93600), (3010262400, 97200), (3020889600, 93600),
  (3025645200, 90000), (3038346000, 93600), (3053552400, 90000), (3069194400, 93600),
  (3072214800, 97200), (3076444800, 93600), (3084915600, 90000), (3101850000, 93600),
  (3116365200, 90000), (3132694800, 93600), (3147814800, 90000), (4110656400, 93600),
  (4125776400, 90000), (4141501200, 93600), (4157226000, 90000), (4172950800, 93600),
  (4188675600, 90000), (4204400400, 93600), (4220125200, 90000), (4235850000, 93600),
  (4252179600, 90000), (4267904400, 93600), (4283629200, 90000), (4299354000, 93600),
  (4315078800, 90000), (4330803600, 93600), (4346528400, 90000), (4362253200, 93600),
  (4377978000, 90000), (4393702800, 93600), (4409427600, 90000), (4425152400, 93600),
  (4441482000, 90000), (4457206800, 93600), (4472931600, 90000), (4488656400, 93600),
  (4504381200, 90000), (4520106000, 93600), (4535830800, 90000), (4551555600, 93600),
  (4567280400, 90000), (4583005200, 93600), (4598730000, 90000)]

/-- New York before the rule of 2007. -/
def newYork : List (Nat × Nat) := [
  (1069174800, 68400), (2153545200, 72000), (2171685600, 68400), (2184994800, 72000),
  (2203135200, 68400), (2216444400, 72000), (2235189600, 68400), (2250313200, 72000),
  (2263615200, 68400), (2282367600, 72000), (2295064800, 68400), (2313817200, 72000),
  (2327119200, 68400), (2345266800, 72000), (2358568800, 68400), (2376716400, 72000),
  (2390018400, 68400), (2408166000, 72000), (2421468000, 68400), (2439615600, 72000),
  (2452917600, 68400), (2471670000, 72000), (2484972000, 68400), (2503119600, 72000),
  (2516421600, 68400), (2534569200, 72000), (2547871200, 68400), (2566018800, 72000),
  (2579320800, 68400), (2597468400, 72000), (2610770400, 68400), (2629522800, 72000),
  (2642220000, 68400), (2660972400, 72000), (2674274400, 68400), (2692422000, 72000),
  (2705724000, 68400), (2723871600, 72000), (2737173600, 68400), (2755321200, 72000),
  (2768623200, 68400), (2786770800, 72000), (2800072800, 68400), (2818825200, 72000),
  (2831522400, 68400), (2850274800, 72000), (2863576800, 68400), (2881724400, 72000),
  (2895026400, 68400), (2906607600, 72000), (3021429600, 68400), (3039577200, 72000),
  (3052879200, 68400), (3071026800, 72000), (3084328800, 68400), (3102476400, 72000),
  (3115778400, 68400), (3133926000, 72000), (3147228000, 68400), (3165980400, 72000),
  (3178677600, 68400), (3197430000, 72000), (3210732000, 68400), (3228879600, 72000),
  (3242181600, 68400), (3260329200, 72000), (3273631200, 68400), (3291778800, 72000),
  (3305080800, 68400), (3323228400, 72000), (3339554400, 68400), (3355282800, 72000),
  (3371004000, 68400), (3386732400, 72000), (3402453600, 68400), (3418182000, 72000),
  (3433903200, 68400), (3449631600, 72000), (3465352800, 68400), (3481081200, 72000),
  (3497407200, 68400), (3513135600, 72000), (3528856800, 68400), (3544585200, 72000),
  (3560306400, 68400), (3576034800, 72000), (3591756000, 68400), (3607484400, 72000),
  (3623205600, 68400), (3638934000, 72000), (3655260000, 68400), (3670383600, 72000),
  (3686709600, 68400), (3702438000, 72000), (3718159200, 68400), (3733887600, 72000),
  (3749608800, 68400), (3765337200, 72000), (3781058400, 68400), (3796786800, 72000),
  (3812508000, 68400), (3828236400, 72000), (3844562400, 68400), (3860290800, 72000),
  (3876012000, 68400), (3891740400, 72000), (3907461600, 68400), (3913513200, 72000),
  (3938911200, 68400), (3949196400, 72000), (3970360800, 68400), (3986089200, 72000),
  (4002415200, 68400), (4017538800, 72000), (4033864800, 68400), (4049593200, 72000),
  (4065314400, 68400), (4081042800, 72000), (4096764000, 68400), (4112492400, 72000),
  (4128213600, 68400), (4143942000, 72000), (4159663200, 68400), (4175391600, 72000),
  (4191717600, 68400), (4206841200, 72000), (4223167200, 68400), (4238895600, 72000),
  (4254616800, 68400), (4270345200, 72000), (4286066400, 68400), (4301794800, 72000),
  (4317516000, 68400), (4331430000, 72000), (4348965600, 68400), (4362879600, 72000),
  (4381020000, 68400), (4394329200, 72000), (4412469600, 68400), (4425778800, 72000),
  (4443919200, 68400), (4457833200, 72000), (4475368800, 68400), (4489282800, 72000),
  (4506818400, 68400), (4520732400, 72000), (4538872800, 68400), (4552182000, 72000),
  (4570322400, 68400), (4583631600, 72000), (4601772000, 68400), (4615686000, 72000),
  (4633221600, 68400), (4647135600, 72000), (4664671200, 68400), (4678585200, 72000),
  (4696120800, 68400), (4710034800, 72000), (4728175200, 68400), (4741484400, 72000),
  (4759624800, 68400), (4772934000, 72000), (4791074400, 68400), (4804988400, 72000),
  (4822524000, 68400), (4836438000, 72000), (4853973600, 68400), (4867887600, 72000),
  (4886028000, 68400), (4899337200, 72000), (4917477600, 68400), (4930786800, 72000),
  (4948927200, 68400)]

/-- Kolkata. -/
def kolkata : List (Nat × Nat) := [
  (141588392, 107600), (631130800, 105670), (1767119930, 106200), (2895244200, 109800),
  (2914767000, 106200), (2924188200, 109800), (3022680600, 106200)]

/-- Kathmandu. -/
def kathmandu : List (Nat × Nat) := [
  (2208881924, 106200), (4291727400, 107100)]

/-- Lord Howe Island before the rule of 2008. -/
def lordHowe : List (Nat × Nat) := [
  (1422710620, 122400), (4139042400, 124200), (4159611000, 127800), (4171098600, 124200),
  (4191665400, 127800), (4202548200, 124200), (4223115000, 127800), (4233997800, 124200),
  (4254564600, 127800), (4265447400, 124200), (4286014200, 126000), (4298108400, 124200),
  (4316859000, 126000), (4329558000, 124200), (4348913400, 126000), (4361612400, 124200),
  (4380967800, 126000), (4393062000, 124200), (4412417400, 126000), (4423302000, 124200),
  (4443867000, 126000), (4454751600, 124200), (4475316600, 126000), (4486201200, 124200),
  (4506766200, 126000), (4518255600, 124200), (4538820600, 126000), (4549705200, 124200),
  (4570270200, 126000), (4581154800, 124200), (4601719800, 126000), (4615023600, 124200),
  (4633169400, 126000), (4646473200, 124200), (4664619000, 126000), (4677922800, 124200),
  (4696068600, 126000), (4709372400, 124200), (4728123000, 126000), (4740822000, 124200),
  (4754129400, 126000), (4772271600, 124200), (4791022200, 126000), (4804326000, 124200),
  (4822471800, 126000), (4835775600, 124200), (4853921400, 126000), (4867225200, 124200),
  (4885975800, 126000), (4898674800, 124200), (4917425400, 126000), (4930729200, 124200),
  (4948875000, 126000), (4961574000, 124200), (4980324600, 126000)]

/-- St. John's before the rule of 2012. -/
def stJohns : List (Nat × Nat) := [
  (2122695052, 77348), (2136688252, 73748), (2154749452, 77348), (2171680252, 73748),
  (2188175452, 77348), (2196725452, 73748), (2219538652, 77348), (2235259852, 73748),
  (2250988252, 77348), (2266709452, 73748), (2283042652, 77348), (2298159052, 73748),
  (2314492252, 77348), (2329608652, 73748), (2345941852, 77348), (2361058252, 73748),
  (2377391452, 77348), (2392507852, 73748), (2408841052, 77348), (2424562252, 73748),
  (2440290652, 77348), (2456011852, 73748), (2472345052, 77348), (2487461452, 73748),
  (2503794652, 77348), (2518911052, 73748), (2535244252, 77348), (2550360652, 73748),
  (2566693852, 77348), (2581810252, 73748), (2598143452, 77348), (2613864652, 73748),
  (2630197852, 77348), (2645314252, 73748), (2661647452, 77348), (2676763852, 73748),
  (2689903852, 73800), (2693097000, 77400), (2708213400, 73800), (2725155000, 77400),
  (2737852200, 73800), (2756604600, 77400), (2769301800, 73800), (2788054200, 77400),
  (2800751400, 73800), (2820108600, 77400), (2832201000, 73800), (2851558200, 77400),
  (2864255400, 73800), (2883007800, 77400), (2895705000, 73800), (2914457400, 77400),
  (3021424200, 73800), (3040781400, 77400), (3053478600, 73800), (3072231000, 77400),
  (3084928200, 73800), (3103680600, 77400), (3116377800, 73800), (3135130200, 77400),
  (3147827400, 73800), (3167184600, 77400), (3179881800, 73800), (3197424600, 77400),
  (3210726600, 73800), (3228874200, 77400), (3242176200, 73800), (3260323800, 77400),
  (3273625800, 73800), (3291773400, 77400), (3305075400, 73800), (3323223000, 77400),
  (3336525000, 73800), (3355277400, 77400), (3368579400, 73800), (3386727000, 77400),
  (3400029000, 73800), (3418176600, 77400), (3431478600, 73800), (3449626200, 77400),
  (3462928200, 73800), (3481075800, 77400), (3497401800, 73800), (3513130200, 77400),
  (3528851400, 73800), (3544579800, 77400), (3560301000, 73800), (3576029400, 77400),
  (3591750600, 73800), (3607479000, 77400), (3623200200, 73800), (3638928600, 77400),
  (3655254600, 73800), (3670378200, 77400), (3686704200, 73800), (3702432600, 77400),
  (3718153800, 73800), (3733882200, 77400), (3749603400, 73800), (3765331800, 77400),
  (3781053000, 73800), (3796781400, 77400), (3812502600, 73800), (3828231000, 77400),
  (3844557000, 73800), (3860285400, 77400), (3876006600, 73800), (3891735000, 77400),
  (3907456200, 73800), (3923184600, 77400), (3938905800, 73800), (3954634200, 77400),
  (3970355400, 73800), (3986083800, 77400), (4002409800, 73800), (4017533400, 77400),
  (4033859400, 73800), (4049587800, 77400), (4065309000, 73800), (4081037400, 77400),
  (4096758600, 73800), (4112487000, 77400), (4128208200, 73800), (4143936600, 77400),
  (4159657800, 73800), (4175386200, 77400), (4191712200, 73800), (4206835800, 77400),
  (4223161800, 73800), (4238890200, 77400), (4254611400, 73800), (4270339800, 77400),
  (4286061000, 73800), (4301789400, 77400), (4317510600, 73800), (4331417460, 77400),
  (4348953060, 73800), (4362867060, 81000), (4381003860, 73800), (4394316660, 77400),
  (4412457060, 73800), (4425766260, 77400), (4443906660, 73800), (4457820660, 77400),
  (4475356260, 73800), (4489270260, 77400), (4506805860, 73800), (4520719860, 77400),
  (4538860260, 73800), (4552169460, 77400), (4570309860, 73800), (4583619060, 77400),
  (4601759460, 73800), (4615673460, 77400), (4633209060, 73800), (4647123060, 77400),
  (4664658660, 73800), (4678572660, 77400), (4696108260, 73800), (4710022260, 77400),
  (4728162660, 73800), (4741471860, 77400), (4759612260, 73800), (4772921460, 77400),
  (4791061860, 73800), (4804975860, 77400), (4822511460, 73800), (4836425460, 77400),
  (4853961060, 73800), (4867875060, 77400), (4886015460, 73800), (4899324660, 77400),
  (4917465060, 73800), (4930774260, 77400), (4948914660, 73800), (4960409460, 77400),
  (4980969060, 73800), (4991859060, 77400), (5012418660, 73800), (5023308660, 77400),
  (5043868260, 73800), (5055363060, 77400), (5075922660, 73800), (5086812660, 77400),
  (5107379400, 73800)]

/-- Kiritimati. -/
def kiritimati : List (Nat × Nat) := [
  (1609410560, 48000), (4094448000, 50400), (4575693600, 136800)]

end Itinerary.Time.ZoneTable
