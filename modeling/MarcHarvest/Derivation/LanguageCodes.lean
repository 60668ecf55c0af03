/-!
# Language codes

The three-letter codes for languages in bibliographic records, in alphabetical order, each with the
name that readers see.
-/

namespace MarcHarvest

/-- Codes and names, one line for each language. -/
def languageCodes : List (String × String) := [
  ("aar", "Afar"),
  ("abk", "Abkhaz"),
  ("ace", "Achinese"),
  ("ach", "Acoli"),
  ("ada", "Adangme"),
  ("ady", "Adygei"),
  ("afa", "Afroasiatic (Other)"),
  ("afr", "Afrikaans"),
  ("ain", "Ainu"),
  ("aka", "Akan"),
  ("akk", "Akkadian"),
  ("alb", "Albanian"),
  ("ale", "Aleut"),
  ("alg", "Algonquian (Other)"),
  ("alt", "Altai"),
  ("amh", "Amharic"),
  ("ang", "English, Old (ca. 450-1100)"),
  ("apa", "Apache languages"),
  ("ara", "Arabic"),
  ("arc", "Aramaic"),
  ("arg", "Aragonese"),
  ("arm", "Armenian"),
  ("arn", "Mapuche"),
  ("arp", "Arapaho"),
  ("art", "Artificial (Other)"),
  ("arw", "Arawak"),
  ("asm", "Assamese"),
  ("ast", "Bable"),
  ("ath", "Athapascan (Other)"),
  ("aus", "Australian languages"),
  ("ava", "Avaric"),
  ("ave", "Avestan"),
  ("awa", "Awadhi"),
  ("aym", "Aymara"),
  ("aze", "Azerbaijani"),
  ("bak", "Bashkir"),
  ("bal", "Baluchi"),
  ("bam", "Bambara"),
  ("ban", "Balinese"),
  ("baq", "Basque"),
  ("bas", "Basa"),
  ("bat", "Baltic (Other)"),
  ("bel", "Belarusian"),
  ("bem", "Bemba"),
  ("ben", "Bengali"),
  ("ber", "Berber (Other)"),
  ("bho", "Bhojpuri"),
  ("bik", "Bikol"),
  ("bin", "Edo"),
  ("bis", "Bislama"),
  ("bla", "Siksika"),
  ("bnt", "Bantu (Other)"),
  ("bos", "Bosnian"),
  ("bra", "Braj"),
  ("bre", "Breton"),
  ("bua", "Buriat"),
  ("bug", "Bugis"),
  ("bul", "Bulgarian"),
  ("bur", "Burmese"),
  ("cai", "Central American Indian (Other)"),
  ("cat", "Catalan"),
  ("cau", "Caucasian (Other)"),
  ("ceb", "Cebuano"),
  ("cel", "Celtic (Other)"),
  ("cha", "Chamorro"),
  ("che", "Chechen"),
  ("chi", "Chinese"),
  ("chm", "Mari"),
  ("chn", "Chinook jargon"),
  ("cho", "Choctaw"),
  ("chr", "Cherokee"),
  ("chu", "Church Slavic"),
  ("chv", "Chuvash"),
  ("chy", "Cheyenne"),
  ("cop", "Coptic"),
  ("cor", "Cornish"),
  ("cos", "Corsican"),
  ("cpe", "Creoles and Pidgins, English-based (Other)"),
  ("cpf", "Creoles and Pidgins, French-based (Other)"),
  ("cpp", "Creoles and Pidgins, Portuguese-based (Other)"),
  ("cre", "Cree"),
  ("crh", "Crimean Tatar"),
  ("crp", "Creoles and Pidgins (Other)"),
  ("csb", "Kashubian"),
  ("cze", "Czech"),
  ("dak", "Dakota"),
  ("dan", "Danish"),
  ("del", "Delaware"),
  ("din", "Dinka"),
  ("div", "Divehi"),
  ("doi", "Dogri"),
  ("dra", "Dravidian (Other)"),
  ("dsb", "Lower Sorbian"),
  ("dum", "Dutch, Middle (ca. 1050-1350)"),
  ("dut", "Dutch"),
  ("dzo", "Dzongkha"),
  ("egy", "Egyptian"),
  ("elx", "Elamite"),
  ("eng", "English"),
  ("enm", "English, Middle (1100-1500)"),
  ("epo", "Esperanto"),
  ("est", "Estonian"),
  ("ewe", "Ewe"),
  ("fao", "Faroese"),
  ("fij", "Fijian"),
  ("fil", "Filipino"),
  ("fin", "Finnish"),
  ("fiu", "Finno-Ugrian (Other)"),
  ("fon", "Fon"),
  ("fre", "French"),
  ("frm", "French, Middle (ca. 1300-1600)"),
  ("fro", "French, Old (ca. 842-1300)"),
  ("fry", "Frisian"),
  ("ful", "Fula"),
  ("fur", "Friulian"),
  ("gaa", "Gã"),
  ("geo", "Georgian"),
  ("ger", "German"),
  ("gez", "Ethiopic"),
  ("gla", "Scottish Gaelic"),
  ("gle", "Irish"),
  ("glg", "Galician"),
  ("glv", "Manx"),
  ("gmh", "German, Middle High (ca. 1050-1500)"),
  ("goh", "German, Old High (ca. 750-1050)"),
  ("got", "Gothic"),
  ("grc", "Greek, Ancient (to 1453)"),
  ("gre", "Greek, Modern (1453- )"),
  ("grn", "Guarani"),
  ("guj", "Gujarati"),
  ("hat", "Haitian French Creole"),
  ("hau", "Hausa"),
  ("haw", "Hawaiian"),
  ("heb", "Hebrew"),
  ("her", "Herero"),
  ("hil", "Hiligaynon"),
  ("hin", "Hindi"),
  ("hmn", "Hmong"),
  ("hrv", "Croatian"),
  ("hun", "Hungarian"),
  ("hup", "Hupa"),
  ("ibo", "Igbo"),
  ("ice", "Icelandic"),
  ("ido", "Ido"),
  ("iii", "Sichuan Yi"),
  ("iku", "Inuktitut"),
  ("ile", "Interlingue"),
  ("ilo", "Iloko"),
  ("ina", "Interlingua (International Auxiliary Language Association)"),
  ("inc", "Indic (Other)"),
  ("ind", "Indonesian"),
  ("ine", "Indo-European (Other)"),
  ("ipk", "Inupiaq"),
  ("ira", "Iranian (Other)"),
  ("iro", "Iroquoian (Other)"),
  ("ita", "Italian"),
  ("jav", "Javanese"),
  ("jpn", "Japanese"),
  ("jpr", "Judeo-Persian"),
  ("jrb", "Judeo-Arabic"),
  ("kaa", "Kara-Kalpak"),
  ("kab", "Kabyle"),
  ("kal", "Kalâtdlisut"),
  ("kan", "Kannada"),
  ("kar", "Karen languages"),
  ("kas", "Kashmiri"),
  ("kau", "Kanuri"),
  ("kaz", "Kazakh"),
  ("khm", "Khmer"),
  ("kin", "Kinyarwanda"),
  ("kir", "Kyrgyz"),
  ("kok", "Konkani"),
  ("kon", "Kongo"),
  ("kor", "Korean"),
  ("kur", "Kurdish"),
  ("lad", "Ladino"),
  ("lao", "Lao"),
  ("lat", "Latin"),
  ("lav", "Latvian"),
  ("lin", "Lingala"),
  ("lit", "Lithuanian"),
  ("ltz", "Luxembourgish"),
  ("lug", "Ganda"),
  ("mac", "Macedonian"),
  ("mal", "Malayalam"),
  ("mao", "Maori"),
  ("mar", "Marathi"),
  ("may", "Malay"),
  ("mlg", "Malagasy"),
  ("mlt", "Maltese"),
  ("mon", "Mongolian"),
  ("mul", "Multiple languages"),
  ("nah", "Nahuatl"),
  ("nap", "Neapolitan Italian"),
  ("nav", "Navajo"),
  ("nep", "Nepali"),
  ("non", "Old Norse"),
  ("nor", "Norwegian"),
  ("oci", "Occitan (post-1500)"),
  ("ori", "Oriya"),
  ("oss", "Ossetic"),
  ("ota", "Turkish, Ottoman"),
  ("pan", "Panjabi"),
  ("peo", "Old Persian (ca. 600-400 B.C.)"),
  ("per", "Persian"),
  ("phn", "Phoenician"),
  ("pli", "Pali"),
  ("pol", "Polish"),
  ("por", "Portuguese"),
  ("pra", "Prakrit languages"),
  ("pus", "Pushto"),
  ("que", "Quechua"),
  ("roh", "Raeto-Romance"),
  ("rom", "Romani"),
  ("rum", "Romanian"),
  ("rus", "Russian"),
  ("san", "Sanskrit"),
  ("sga", "Irish, Old (to 1100)"),
  ("sin", "Sinhalese"),
  ("slo", "Slovak"),
  ("slv", "Slovenian"),
  ("sme", "Northern Sami"),
  ("smo", "Samoan"),
  ("sna", "Shona"),
  ("snd", "Sindhi"),
  ("som", "Somali"),
  ("sot", "Sotho"),
  ("spa", "Spanish"),
  ("srp", "Serbian"),
  ("sux", "Sumerian"),
  ("swa", "Swahili"),
  ("swe", "Swedish"),
  ("syr", "Syriac, Modern"),
  ("tah", "Tahitian"),
  ("tam", "Tamil"),
  ("tat", "Tatar"),
  ("tel", "Telugu"),
  ("tgk", "Tajik"),
  ("tgl", "Tagalog"),
  ("tha", "Thai"),
  ("tib", "Tibetan"),
  ("tir", "Tigrinya"),
  ("ton", "Tongan"),
  ("tuk", "Turkmen"),
  ("tur", "Turkish"),
  ("uga", "Ugaritic"),
  ("uig", "Uighur"),
  ("ukr", "Ukrainian"),
  ("und", "Undetermined"),
  ("urd", "Urdu"),
  ("uzb", "Uzbek"),
  ("vie", "Vietnamese"),
  ("wel", "Welsh"),
  ("wln", "Walloon"),
  ("yid", "Yiddish"),
  ("yor", "Yoruba"),
  ("zul", "Zulu"),
  ("zxx", "No linguistic content"),
  ("zza", "Zaza")]

end MarcHarvest
