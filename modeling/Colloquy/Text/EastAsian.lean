/-
The encodings of East Asia with their names, and how bytes are read in them.
-/
import Colloquy.Text.EastAsian.Switching

namespace Colloquy.Text.EastAsian

/-- An encoding of East Asia. -/
structure Form where
  name : String
  others : List String
  decode : List UInt8 → Except Decoding.Fault (List Char)

namespace Form

/-- An encoding in which the front is read by itself. -/
def stepwise (name : String) (others : List String) (step : Decoding.Step) :
    Form :=
  { name, others, decode := Decoding.decode name step }

/-- An encoding with escapes. -/
def escaping (name : String) (others : List String) (r : Repertoire) : Form :=
  { name, others, decode := decodeEscapes name r }

/-- The encodings. -/
def all : List Form := [
  stepwise "big5" ["big5_tw", "csbig5", "x_mac_trad_chinese"]
    (pairStep plain (big5 taiwanese)),
  stepwise "big5hkscs" ["big5_hkscs", "hkscs"] (pairsStep plain hongKongPair),
  stepwise "cp950" ["950", "ms950"]
    (pairStep plain fun b c =>
      (big5 windowsTaiwanese b c).or (big5 taiwanese b c)),
  stepwise "gb2312"
    ["chinese", "csiso58gb231280", "euc_cn", "euccn", "eucgb2312_cn",
      "gb2312_1980", "gb2312_80", "iso_ir_58", "x_mac_simp_chinese"]
    (pairStep plain (upper chinese)),
  stepwise "gbk" ["936", "cp936", "ms936"] (pairStep plain gbk),
  stepwise "gb18030" ["gb18030_2000"] gb18030Step,
  stepwise "shift_jis"
    ["csshiftjis", "shiftjis", "sjis", "s_jis", "x_mac_japanese"] shiftedStep,
  stepwise "shift_jis_2004" ["shiftjis2004", "sjis_2004", "s_jis_2004"]
    (shiftedPlanesStep true),
  stepwise "shift_jisx0213" ["shiftjisx0213", "sjisx0213", "s_jisx0213"]
    (shiftedPlanesStep false),
  stepwise "cp932" ["932", "ms932", "mskanji", "ms_kanji"]
    (pairStep windowsSingle windowsPair),
  stepwise "euc_jp" ["eucjp", "ujis", "u_jis"] eucJapaneseStep,
  stepwise "euc_jis_2004" ["jisx0213", "eucjis2004", "euc_jis2004"]
    (eucPlanesStep true),
  stepwise "euc_jisx0213" ["eucjisx0213"] (eucPlanesStep false),
  stepwise "euc_kr"
    ["euckr", "korean", "ksc5601", "ks_c_5601", "ks_c_5601_1987", "ksx1001",
      "ks_x_1001", "x_mac_korean"]
    eucKoreanStep,
  stepwise "cp949" ["949", "ms949", "uhc"] (pairStep plain windowsKorean),
  stepwise "johab" ["cp1361", "ms1361"] (pairStep plain johab),
  { name := "hz", others := ["hzgb", "hz_gb", "hz_gb_2312"],
    decode := decodeTildes },
  escaping "iso2022_jp" ["csiso2022jp", "iso2022jp", "iso_2022_jp"]
    { sets := [.japanese, .roman, .oldJapanese] },
  escaping "iso2022_jp_1" ["iso2022jp_1", "iso_2022_jp_1"]
    { sets := [.japanese, .moreJapanese, .roman, .oldJapanese] },
  escaping "iso2022_jp_2" ["iso2022jp_2", "iso_2022_jp_2"]
    { sets := [.japanese, .moreJapanese, .korean, .chinese, .roman,
      .oldJapanese, .latin, .greek]
      hasThird := true },
  escaping "iso2022_jp_2004" ["iso_2022_jp_2004", "iso2022jp_2004"]
    { sets := [.japanese, .firstPlane true, .secondPlane] },
  escaping "iso2022_jp_3" ["iso2022jp_3", "iso_2022_jp_3"]
    { sets := [.japanese, .firstPlane false, .secondPlane] },
  escaping "iso2022_jp_ext" ["iso2022jp_ext", "iso_2022_jp_ext"]
    { sets := [.japanese, .moreJapanese, .roman, .katakana, .oldJapanese] },
  escaping "iso2022_kr" ["csiso2022kr", "iso2022kr", "iso_2022_kr"]
    { sets := [.korean], shifts := true, hasSign := false }]

end Form
end Colloquy.Text.EastAsian
