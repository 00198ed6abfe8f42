/-
Characters that are a character and a mark in one.

A letter with a mark can often be written as one character, and a syllable of Hangul, which is two or
three letters, always can.  Joining and splitting undo each other, a pair at a time; only pairs that
are to be joined are listed.
-/
import JobWorker.Text.Ranges

namespace JobWorker.Text

/-- Marks, each with the characters that take it: a character, then that character with the mark. -/
def markedRows : List (Nat × String) :=
  [(0x300, "AÀEÈIÌOÒUÙaàeèiìoòuùÜǛüǜNǸnǹЕЀИЍеѐиѝĒḔēḕŌṐōṑWẀwẁÂẦâầĂẰăằÊỀêềÔỒôồƠỜơờƯỪưừYỲyỳ"),
   (0x300, "ἀἂἁἃἈἊἉἋἐἒἑἓἘἚἙἛἠἢἡἣἨἪἩἫἰἲἱἳἸἺἹἻὀὂὁὃὈὊὉὋὐὒὑὓὙὛὠὢὡὣὨὪὩὫαὰεὲηὴιὶοὸυὺωὼΑᾺΕῈΗῊ᾿῍"),
   (0x300, "ϊῒΙῚ῾῝ϋῢΥῪ¨῭ΟῸΩῺ"),
   (0x301, "AÁEÉIÍOÓUÚYÝaáeéiíoóuúyýCĆcćLĹlĺNŃnńRŔrŕSŚsśZŹzźÜǗüǘGǴgǵÅǺåǻÆǼæǽØǾøǿ¨΅ΑΆΕΈΗΉ"),
   (0x301, "ΙΊΟΌΥΎΩΏϊΐαάεέηήιίϋΰοόυύωώϒϓГЃКЌгѓкќÇḈçḉĒḖēḗÏḮïḯKḰkḱMḾmḿÕṌõṍŌṒōṓPṔpṕŨṸũṹWẂwẃ"),
   (0x301, "ÂẤâấĂẮăắÊẾêếÔỐôốƠỚơớƯỨưứἀἄἁἅἈἌἉἍἐἔἑἕἘἜἙἝἠἤἡἥἨἬἩἭἰἴἱἵἸἼἹἽὀὄὁὅὈὌὉὍὐὔὑὕὙὝὠὤὡὥὨὬ"),
   (0x301, "ὩὭ᾿῎῾῞"),
   (0x302, "AÂEÊIÎOÔUÛaâeêiîoôuûCĈcĉGĜgĝHĤhĥJĴjĵSŜsŝWŴwŵYŶyŷZẐzẑẠẬạậẸỆẹệỌỘọộ"),
   (0x303, "AÃNÑOÕaãnñoõIĨiĩUŨuũVṼvṽÂẪâẫĂẴăẵEẼeẽÊỄêễÔỖôỗƠỠơỡƯỮưữYỸyỹ"),
   (0x304, "AĀaāEĒeēIĪiīOŌoōUŪuūÜǕüǖÄǞäǟȦǠȧǡÆǢæǣǪǬǫǭÖȪöȫÕȬõȭȮȰȯȱYȲyȳИӢиӣУӮуӯGḠgḡḶḸḷḹṚṜṛṝ"),
   (0x304, "αᾱΑᾹιῑΙῙυῡΥῩ"),
   (0x306, "AĂaăEĔeĕGĞgğIĬiĭOŎoŏUŬuŭУЎИЙийуўЖӁжӂАӐаӑЕӖеӗȨḜȩḝẠẶạặαᾰΑᾸιῐΙῘυῠΥῨ"),
   (0x307, "CĊcċEĖeėGĠgġIİZŻzżAȦaȧOȮoȯBḂbḃDḊdḋFḞfḟHḢhḣMṀmṁNṄnṅPṖpṗRṘrṙSṠsṡŚṤśṥŠṦšṧṢṨṣṩTṪ"),
   (0x307, "tṫWẆwẇXẊxẋYẎyẏſẛ𐗒𐗉𐗚𐗤"),
   (0x308, "AÄEËIÏOÖUÜaäeëiïoöuüyÿYŸΙΪΥΫιϊυϋϒϔЕЁІЇеёіїАӒаӓӘӚәӛЖӜжӝЗӞзӟИӤиӥОӦоӧӨӪөӫЭӬэӭУӰ"),
   (0x308, "уӱЧӴчӵЫӸыӹHḦhḧÕṎõṏŪṺūṻWẄwẅXẌxẍtẗ"),
   (0x309, "AẢaảÂẨâẩĂẲăẳEẺeẻÊỂêểIỈiỉOỎoỏÔỔôổƠỞơởUỦuủƯỬưửYỶyỷ"),
   (0x30A, "AÅaåUŮuůwẘyẙ"),
   (0x30B, "OŐoőUŰuűУӲуӳ"),
   (0x30C, "CČcčDĎdďEĚeěLĽlľNŇnňRŘrřSŠsšTŤtťZŽzžAǍaǎIǏiǐOǑoǒUǓuǔÜǙüǚGǦgǧKǨkǩƷǮʒǯjǰHȞhȟ"),
   (0x30F, "AȀaȁEȄeȅIȈiȉOȌoȍRȐrȑUȔuȕѴѶѵѷ"),
   (0x311, "AȂaȃEȆeȇIȊiȋOȎoȏRȒrȓUȖuȗ"),
   (0x313, "αἀΑἈεἐΕἘηἠΗἨιἰΙἸοὀΟὈυὐωὠΩὨρῤ"),
   (0x314, "αἁΑἉεἑΕἙηἡΗἩιἱΙἹοὁΟὉυὑΥὙωὡΩὩρῥΡῬ"),
   (0x31B, "OƠoơUƯuư"),
   (0x323, "BḄbḅDḌdḍHḤhḥKḲkḳLḶlḷMṂmṃNṆnṇRṚrṛSṢsṣTṬtṭVṾvṿWẈwẉZẒzẓAẠaạEẸeẹIỊiịOỌoọƠỢơợUỤuụ"),
   (0x323, "ƯỰưựYỴyỵ"),
   (0x324, "UṲuṳ"),
   (0x325, "AḀaḁ"),
   (0x326, "SȘsșTȚtț"),
   (0x327, "CÇcçGĢgģKĶkķLĻlļNŅnņRŖrŗSŞsşTŢtţEȨeȩDḐdḑHḨhḩ"),
   (0x328, "AĄaąEĘeęIĮiįUŲuųOǪoǫ"),
   (0x32D, "DḒdḓEḘeḙLḼlḽNṊnṋTṰtṱUṶuṷ"),
   (0x32E, "HḪhḫ"),
   (0x330, "EḚeḛIḬiḭUṴuṵ"),
   (0x331, "BḆbḇDḎdḏKḴkḵLḺlḻNṈnṉRṞrṟTṮtṯZẔzẕhẖ"),
   (0x338, "←↚→↛↔↮⇐⇍⇔⇎⇒⇏∃∄∈∉∋∌∣∤∥∦∼≁≃≄≅≇≈≉=≠≡≢≍≭<≮>≯≤≰≥≱≲≴≳≵≶≸≷≹≺⊀≻⊁⊂⊄⊃⊅⊆⊈⊇⊉⊢⊬⊨⊭⊩⊮⊫⊯≼⋠≽⋡"),
   (0x338, "⊑⋢⊒⋣⊲⋪⊳⋫⊴⋬⊵⋭"),
   (0x342, "ἀἆἁἇἈἎἉἏἠἦἡἧἨἮἩἯἰἶἱἷἸἾἹἿὐὖὑὗὙὟὠὦὡὧὨὮὩὯαᾶ¨῁ηῆ᾿῏ιῖϊῗ῾῟υῦϋῧωῶ"),
   (0x345, "ἀᾀἁᾁἂᾂἃᾃἄᾄἅᾅἆᾆἇᾇἈᾈἉᾉἊᾊἋᾋἌᾌἍᾍἎᾎἏᾏἠᾐἡᾑἢᾒἣᾓἤᾔἥᾕἦᾖἧᾗἨᾘἩᾙἪᾚἫᾛἬᾜἭᾝἮᾞἯᾟὠᾠὡᾡὢᾢὣᾣὤᾤὥᾥ"),
   (0x345, "ὦᾦὧᾧὨᾨὩᾩὪᾪὫᾫὬᾬὭᾭὮᾮὯᾯὰᾲαᾳάᾴᾶᾷΑᾼὴῂηῃήῄῆῇΗῌὼῲωῳώῴῶῷΩῼ"),
   (0x653, "اآ"),
   (0x654, "اأوؤيئەۀہۂےۓ"),
   (0x655, "اإ"),
   (0x93C, "नऩरऱळऴ"),
   (0x9BE, "েো"),
   (0x9D7, "েৌ"),
   (0xB3E, "େୋ"),
   (0xB56, "େୈ"),
   (0xB57, "େୌ"),
   (0xBBE, "ெொேோ"),
   (0xBD7, "ஒஔெௌ"),
   (0xC56, "ెై"),
   (0xCC2, "ೆೊ"),
   (0xCD5, "ಿೀೆೇೊೋ"),
   (0xCD6, "ೆೈ"),
   (0xD3E, "െൊേോ"),
   (0xD57, "െൌ"),
   (0xDCA, "ෙේොෝ"),
   (0xDCF, "ෙො"),
   (0xDDF, "ෙෞ"),
   (0x102E, "ဥဦ"),
   (0x1B35, "ᬅᬆᬇᬈᬉᬊᬋᬌᬍᬎᬑᬒᬺᬻᬼᬽᬾᭀᬿᭁᭂᭃ"),
   (0x3099, "かがきぎくぐけげこごさざしじすずせぜそぞただちぢつづてでとどはばひびふぶへべほぼうゔゝゞカガキギクグケゲコゴサザシジスズセゼソゾタダチヂツヅテデトドハバ"),
   (0x3099, "ヒビフブヘベホボウヴワヷヰヸヱヹヲヺヽヾ"),
   (0x309A, "はぱひぴふぷへぺほぽハパヒピフプヘペホポ"),
   (0x110BA, "𑂙𑂚𑂛𑂜𑂥𑂫"),
   (0x11127, "𑄱𑄮𑄲𑄯"),
   (0x1133E, "𑍇𑍋"),
   (0x11357, "𑍇𑍌"),
   (0x113B8, "𑏅𑎸"),
   (0x113BB, "𑎄𑎅"),
   (0x113C2, "𑎋𑎎𑏅𑏂"),
   (0x113C9, "𑎂𑎃𑎐𑎑𑏅𑏉"),
   (0x114B0, "𑒹𑒼"),
   (0x114BA, "𑒹𑒻"),
   (0x114BD, "𑒹𑒾"),
   (0x115AF, "𑖸𑖺𑖹𑖻"),
   (0x11930, "𑤵𑤸"),
   (0x1611E, "𖄡𖄞"),
   (0x1611F, "𖄦𖄩𖄤𖄡𖄦𖄢𖄧"),
   (0x16120, "𖄨𖄡𖄨"),
   (0x16129, "𖄡𖄩"),
   (0x16D67, "𖵨𖵧𖵣𖵩𖵩𖵪")]

/-- A character that is another one with a mark. -/
structure Composite where
  base : Char
  mark : Char
  whole : Char
  deriving DecidableEq, Repr

/-- The characters of a row. -/
def Composite.ofRow (mark : Char) : List Char → List Composite
  | base :: whole :: rest => ⟨base, mark, whole⟩ :: ofRow mark rest
  | _ => []

/-- All characters that are another one with a mark, syllables of Hangul apart. -/
def composites : List Composite :=
  markedRows.flatMap fun (mark, row) => Composite.ofRow (Char.ofNat mark) row.toList

/-! ### Hangul

Syllables follow each other in the order of their leading letters, vowels and trailing letters, and the
first syllable with a leading letter and a vowel has no trailing letter.
-/

namespace Hangul

/-- The first leading letter. -/
def leading : Nat := 0x1100

/-- The first vowel. -/
def vowel : Nat := 0x1161

/-- The place before the first trailing letter. -/
def trailing : Nat := 0x11A7

/-- The first syllable. -/
def syllable : Nat := 0xAC00

/-- The number of leading letters. -/
def leadingCount : Nat := 19

/-- The number of vowels. -/
def vowelCount : Nat := 21

/-- The number of trailing letters and of none. -/
def trailingCount : Nat := 28

/-- Whether a character is a syllable. -/
def isSyllable (c : Char) : Bool :=
  syllable ≤ c.toNat && c.toNat < syllable + leadingCount * vowelCount * trailingCount

/-- The syllable of two letters, or of a syllable without a trailing letter and such a letter. -/
def join? (a b : Char) : Option Char :=
  if leading ≤ a.toNat ∧ a.toNat < leading + leadingCount ∧
      vowel ≤ b.toNat ∧ b.toNat < vowel + vowelCount then
    some <| Char.ofNat <|
      syllable + ((a.toNat - leading) * vowelCount + (b.toNat - vowel)) * trailingCount
  else if isSyllable a ∧ (a.toNat - syllable) % trailingCount = 0 ∧
      trailing < b.toNat ∧ b.toNat < trailing + trailingCount then
    some (Char.ofNat (a.toNat + (b.toNat - trailing)))
  else none

/-- The two parts of a syllable. -/
def split (c : Char) : Char × Char :=
  let place := c.toNat - syllable
  if place % trailingCount = 0 then
    (Char.ofNat (leading + place / trailingCount / vowelCount),
      Char.ofNat (vowel + place / trailingCount % vowelCount))
  else (Char.ofNat (c.toNat - place % trailingCount), Char.ofNat (trailing + place % trailingCount))

end Hangul

/-! ### One pair -/

/-- The character that a character and a mark are together. -/
def join? (a b : Char) : Option Char :=
  match Hangul.join? a b with
  | some c => some c
  | none => (composites.find? fun k => k.base = a && k.mark = b).map (·.whole)

/-- The two parts of a character. -/
def split? (c : Char) : Option (Char × Char) :=
  if c.toNat < 0xC0 then none
  else if Hangul.isSyllable c then some (Hangul.split c)
  else (composites.find? fun k => k.whole = c).map fun k => (k.base, k.mark)

end JobWorker.Text
