/-!
# Names of pictographs

The official names of characters, as runs of consecutive code points: the first code point, what all
names of the run start with, and what they go on with, separated by bars.
-/

set_option autoImplicit false

namespace ClientPlan.Text

/-- The names of pictographs. -/
def pictureNames : List (Nat × String × String) := [
  (0x1F000, "MAHJONG TILE ", "EAST WIND|SOUTH WIND|WEST WIND|NORTH WIND|RED DRAGON"),
  (0x1F005, "MAHJONG TILE ", "GREEN DRAGON|WHITE DRAGON|ONE OF CHARACTERS|TWO OF CHARACTERS"),
  (0x1F009, "MAHJONG TILE ", "THREE OF CHARACTERS|FOUR OF CHARACTERS|FIVE OF CHARACTERS"),
  (0x1F00C, "MAHJONG TILE ", "SIX OF CHARACTERS|SEVEN OF CHARACTERS|EIGHT OF CHARACTERS"),
  (0x1F00F, "MAHJONG TILE ", "NINE OF CHARACTERS|ONE OF BAMBOOS|TWO OF BAMBOOS|THREE OF BAMBOOS"),
  (0x1F013, "MAHJONG TILE ", "FOUR OF BAMBOOS|FIVE OF BAMBOOS|SIX OF BAMBOOS|SEVEN OF BAMBOOS"),
  (0x1F017, "MAHJONG TILE ", "EIGHT OF BAMBOOS|NINE OF BAMBOOS|ONE OF CIRCLES|TWO OF CIRCLES"),
  (0x1F01B, "MAHJONG TILE ", "THREE OF CIRCLES|FOUR OF CIRCLES|FIVE OF CIRCLES|SIX OF CIRCLES"),
  (0x1F01F, "MAHJONG TILE ", "SEVEN OF CIRCLES|EIGHT OF CIRCLES|NINE OF CIRCLES|PLUM"),
  (0x1F023, "MAHJONG TILE ", "ORCHID|BAMBOO|CHRYSANTHEMUM|SPRING|SUMMER|AUTUMN|WINTER|JOKER|BACK"),
  (0x1F030, "DOMINO TILE ", "HORIZONTAL BACK|HORIZONTAL-00-00|HORIZONTAL-00-01|HORIZONTAL-00-02"),
  (0x1F034, "DOMINO TILE ", "HORIZONTAL-00-03|HORIZONTAL-00-04|HORIZONTAL-00-05|HORIZONTAL-00-06"),
  (0x1F038, "DOMINO TILE ", "HORIZONTAL-01-00|HORIZONTAL-01-01|HORIZONTAL-01-02|HORIZONTAL-01-03"),
  (0x1F03C, "DOMINO TILE ", "HORIZONTAL-01-04|HORIZONTAL-01-05|HORIZONTAL-01-06|HORIZONTAL-02-00"),
  (0x1F040, "DOMINO TILE ", "HORIZONTAL-02-01|HORIZONTAL-02-02|HORIZONTAL-02-03|HORIZONTAL-02-04"),
  (0x1F044, "DOMINO TILE ", "HORIZONTAL-02-05|HORIZONTAL-02-06|HORIZONTAL-03-00|HORIZONTAL-03-01"),
  (0x1F048, "DOMINO TILE ", "HORIZONTAL-03-02|HORIZONTAL-03-03|HORIZONTAL-03-04|HORIZONTAL-03-05"),
  (0x1F04C, "DOMINO TILE ", "HORIZONTAL-03-06|HORIZONTAL-04-00|HORIZONTAL-04-01|HORIZONTAL-04-02"),
  (0x1F050, "DOMINO TILE ", "HORIZONTAL-04-03|HORIZONTAL-04-04|HORIZONTAL-04-05|HORIZONTAL-04-06"),
  (0x1F054, "DOMINO TILE ", "HORIZONTAL-05-00|HORIZONTAL-05-01|HORIZONTAL-05-02|HORIZONTAL-05-03"),
  (0x1F058, "DOMINO TILE ", "HORIZONTAL-05-04|HORIZONTAL-05-05|HORIZONTAL-05-06|HORIZONTAL-06-00"),
  (0x1F05C, "DOMINO TILE ", "HORIZONTAL-06-01|HORIZONTAL-06-02|HORIZONTAL-06-03|HORIZONTAL-06-04"),
  (0x1F060, "DOMINO TILE ", "HORIZONTAL-06-05|HORIZONTAL-06-06|VERTICAL BACK|VERTICAL-00-00"),
  (0x1F064, "DOMINO TILE ", "VERTICAL-00-01|VERTICAL-00-02|VERTICAL-00-03|VERTICAL-00-04"),
  (0x1F068, "DOMINO TILE ", "VERTICAL-00-05|VERTICAL-00-06|VERTICAL-01-00|VERTICAL-01-01"),
  (0x1F06C, "DOMINO TILE ", "VERTICAL-01-02|VERTICAL-01-03|VERTICAL-01-04|VERTICAL-01-05"),
  (0x1F070, "DOMINO TILE ", "VERTICAL-01-06|VERTICAL-02-00|VERTICAL-02-01|VERTICAL-02-02"),
  (0x1F074, "DOMINO TILE ", "VERTICAL-02-03|VERTICAL-02-04|VERTICAL-02-05|VERTICAL-02-06"),
  (0x1F078, "DOMINO TILE ", "VERTICAL-03-00|VERTICAL-03-01|VERTICAL-03-02|VERTICAL-03-03"),
  (0x1F07C, "DOMINO TILE ", "VERTICAL-03-04|VERTICAL-03-05|VERTICAL-03-06|VERTICAL-04-00"),
  (0x1F080, "DOMINO TILE ", "VERTICAL-04-01|VERTICAL-04-02|VERTICAL-04-03|VERTICAL-04-04"),
  (0x1F084, "DOMINO TILE ", "VERTICAL-04-05|VERTICAL-04-06|VERTICAL-05-00|VERTICAL-05-01"),
  (0x1F088, "DOMINO TILE ", "VERTICAL-05-02|VERTICAL-05-03|VERTICAL-05-04|VERTICAL-05-05"),
  (0x1F08C, "DOMINO TILE ", "VERTICAL-05-06|VERTICAL-06-00|VERTICAL-06-01|VERTICAL-06-02"),
  (0x1F090, "DOMINO TILE ", "VERTICAL-06-03|VERTICAL-06-04|VERTICAL-06-05|VERTICAL-06-06"),
  (0x1F0A0, "PLAYING CARD ", "BACK|ACE OF SPADES|TWO OF SPADES"),
  (0x1F0A3, "PLAYING CARD ", "THREE OF SPADES|FOUR OF SPADES|FIVE OF SPADES|SIX OF SPADES"),
  (0x1F0A7, "PLAYING CARD ", "SEVEN OF SPADES|EIGHT OF SPADES|NINE OF SPADES|TEN OF SPADES"),
  (0x1F0AB, "PLAYING CARD ", "JACK OF SPADES|KNIGHT OF SPADES|QUEEN OF SPADES|KING OF SPADES"),
  (0x1F0B1, "PLAYING CARD ", "ACE OF HEARTS|TWO OF HEARTS|THREE OF HEARTS"),
  (0x1F0B4, "PLAYING CARD ", "FOUR OF HEARTS|FIVE OF HEARTS|SIX OF HEARTS|SEVEN OF HEARTS"),
  (0x1F0B8, "PLAYING CARD ", "EIGHT OF HEARTS|NINE OF HEARTS|TEN OF HEARTS|JACK OF HEARTS"),
  (0x1F0BC, "PLAYING CARD ", "KNIGHT OF HEARTS|QUEEN OF HEARTS|KING OF HEARTS|RED JOKER"),
  (0x1F0C1, "PLAYING CARD ", "ACE OF DIAMONDS|TWO OF DIAMONDS|THREE OF DIAMONDS"),
  (0x1F0C4, "PLAYING CARD ", "FOUR OF DIAMONDS|FIVE OF DIAMONDS|SIX OF DIAMONDS|SEVEN OF DIAMONDS"),
  (0x1F0C8, "PLAYING CARD ", "EIGHT OF DIAMONDS|NINE OF DIAMONDS|TEN OF DIAMONDS|JACK OF DIAMONDS"),
  (0x1F0CC, "PLAYING CARD ", "KNIGHT OF DIAMONDS|QUEEN OF DIAMONDS|KING OF DIAMONDS|BLACK JOKER"),
  (0x1F0D1, "PLAYING CARD ", "ACE OF CLUBS|TWO OF CLUBS|THREE OF CLUBS"),
  (0x1F0D4, "PLAYING CARD ", "FOUR OF CLUBS|FIVE OF CLUBS|SIX OF CLUBS|SEVEN OF CLUBS"),
  (0x1F0D8, "PLAYING CARD ", "EIGHT OF CLUBS|NINE OF CLUBS|TEN OF CLUBS|JACK OF CLUBS"),
  (0x1F0DC, "PLAYING CARD ", "KNIGHT OF CLUBS|QUEEN OF CLUBS|KING OF CLUBS|WHITE JOKER"),
  (0x1F0E0, "PLAYING CARD ", "FOOL|TRUMP-1|TRUMP-2|TRUMP-3|TRUMP-4|TRUMP-5|TRUMP-6|TRUMP-7"),
  (0x1F0E8, "PLAYING CARD ", "TRUMP-8|TRUMP-9|TRUMP-10|TRUMP-11|TRUMP-12|TRUMP-13|TRUMP-14"),
  (0x1F0EF, "PLAYING CARD ", "TRUMP-15|TRUMP-16|TRUMP-17|TRUMP-18|TRUMP-19|TRUMP-20|TRUMP-21"),
  (0x1F100, "DIGIT ", "ZERO FULL STOP|ZERO COMMA|ONE COMMA|TWO COMMA|THREE COMMA"),
  (0x1F105, "DIGIT ", "FOUR COMMA|FIVE COMMA|SIX COMMA|SEVEN COMMA|EIGHT COMMA|NINE COMMA"),
  (0x1F10B, "DINGBAT ", "CIRCLED SANS-SERIF DIGIT ZERO|NEGATIVE CIRCLED SANS-SERIF DIGIT ZERO"),
  (0x1F10D, "CIRCLED ", "ZERO WITH SLASH|ANTICLOCKWISE ARROW|DOLLAR SIGN WITH OVERLAID BACKSLASH"),
  (0x1F110, "PARENTHESIZED LATIN CAPITAL LETTER ", "A|B|C"),
  (0x1F113, "PARENTHESIZED LATIN CAPITAL LETTER ", "D|E|F|G|H|I|J|K|L|M|N|O|P|Q|R|S|T|U|V|W|X|Y|Z"),
  (0x1F12A, "", "TORTOISE SHELL BRACKETED LATIN CAPITAL LETTER S"),
  (0x1F12B, "CIRCLED ITALIC LATIN CAPITAL LETTER ", "C|R"),
  (0x1F12D, "", "CIRCLED CD|CIRCLED WZ|COPYLEFT SYMBOL"),
  (0x1F130, "SQUARED LATIN CAPITAL LETTER ", "A|B|C|D|E|F|G|H|I|J|K|L|M|N|O|P|Q|R|S|T|U|V|W|X|Y|Z"),
  (0x1F14A, "SQUARED ", "HV|MV|SD|SS|PPV|WC"),
  (0x1F150, "NEGATIVE CIRCLED LATIN CAPITAL LETTER ", "A|B|C|D|E"),
  (0x1F155, "NEGATIVE CIRCLED LATIN CAPITAL LETTER ", "F|G|H|I|J|K|L|M|N|O|P|Q|R|S|T|U|V|W|X|Y|Z"),
  (0x1F16A, "RAISED ", "MC SIGN|MD SIGN|MR SIGN"),
  (0x1F16D, "CIRCLED ", "CC|C WITH OVERLAID BACKSLASH|HUMAN FIGURE"),
  (0x1F170, "NEGATIVE SQUARED LATIN CAPITAL LETTER ", "A|B|C|D|E"),
  (0x1F175, "NEGATIVE SQUARED LATIN CAPITAL LETTER ", "F|G|H|I|J|K|L|M|N|O|P|Q|R|S|T|U|V|W|X|Y|Z"),
  (0x1F18A, "", "CROSSED NEGATIVE SQUARED LATIN CAPITAL LETTER P"),
  (0x1F18B, "NEGATIVE SQUARED ", "IC|PA|SA|AB|WC"),
  (0x1F190, "", "SQUARE DJ"),
  (0x1F191, "SQUARED ", "CL|COOL|FREE|ID|NEW|NG|OK|SOS|UP WITH EXCLAMATION MARK"),
  (0x1F19A, "SQUARED ", "VS|THREE D|SECOND SCREEN|TWO K|FOUR K|EIGHT K|FIVE POINT ONE"),
  (0x1F1A1, "SQUARED ", "SEVEN POINT ONE|TWENTY-TWO POINT TWO|SIXTY P|ONE HUNDRED TWENTY P"),
  (0x1F1A5, "SQUARED ", "LATIN SMALL LETTER D|HC|HDR|HI-RES|LOSSLESS|SHV|UHD|VOD"),
  (0x1F1AD, "", "MASK WORK SYMBOL"),
  (0x1F1E6, "REGIONAL INDICATOR SYMBOL LETTER ", "A|B"),
  (0x1F1E8, "REGIONAL INDICATOR SYMBOL LETTER ", "C|D|E|F|G|H|I|J|K|L|M|N|O|P|Q|R|S|T|U|V|W|X|Y|Z"),
  (0x1F200, "", "SQUARE HIRAGANA HOKA"),
  (0x1F201, "SQUARED KATAKANA ", "KOKO|SA"),
  (0x1F210, "SQUARED CJK UNIFIED ", "IDEOGRAPH-624B|IDEOGRAPH-5B57|IDEOGRAPH-53CC"),
  (0x1F213, "", "SQUARED KATAKANA DE"),
  (0x1F214, "SQUARED CJK UNIFIED ", "IDEOGRAPH-4E8C|IDEOGRAPH-591A|IDEOGRAPH-89E3|IDEOGRAPH-5929"),
  (0x1F218, "SQUARED CJK UNIFIED ", "IDEOGRAPH-4EA4|IDEOGRAPH-6620|IDEOGRAPH-7121|IDEOGRAPH-6599"),
  (0x1F21C, "SQUARED CJK UNIFIED ", "IDEOGRAPH-524D|IDEOGRAPH-5F8C|IDEOGRAPH-518D|IDEOGRAPH-65B0"),
  (0x1F220, "SQUARED CJK UNIFIED ", "IDEOGRAPH-521D|IDEOGRAPH-7D42|IDEOGRAPH-751F|IDEOGRAPH-8CA9"),
  (0x1F224, "SQUARED CJK UNIFIED ", "IDEOGRAPH-58F0|IDEOGRAPH-5439|IDEOGRAPH-6F14|IDEOGRAPH-6295"),
  (0x1F228, "SQUARED CJK UNIFIED ", "IDEOGRAPH-6355|IDEOGRAPH-4E00|IDEOGRAPH-4E09|IDEOGRAPH-904A"),
  (0x1F22C, "SQUARED CJK UNIFIED ", "IDEOGRAPH-5DE6|IDEOGRAPH-4E2D|IDEOGRAPH-53F3|IDEOGRAPH-6307"),
  (0x1F230, "SQUARED CJK UNIFIED ", "IDEOGRAPH-8D70|IDEOGRAPH-6253|IDEOGRAPH-7981|IDEOGRAPH-7A7A"),
  (0x1F234, "SQUARED CJK UNIFIED ", "IDEOGRAPH-5408|IDEOGRAPH-6E80|IDEOGRAPH-6709|IDEOGRAPH-6708"),
  (0x1F238, "SQUARED CJK UNIFIED ", "IDEOGRAPH-7533|IDEOGRAPH-5272|IDEOGRAPH-55B6|IDEOGRAPH-914D"),
  (0x1F240, "", "TORTOISE SHELL BRACKETED CJK UNIFIED IDEOGRAPH-672C"),
  (0x1F241, "TORTOISE SHELL BRACKETED CJK UNIFIED ", "IDEOGRAPH-4E09|IDEOGRAPH-4E8C"),
  (0x1F243, "TORTOISE SHELL BRACKETED CJK UNIFIED ", "IDEOGRAPH-5B89|IDEOGRAPH-70B9"),
  (0x1F245, "TORTOISE SHELL BRACKETED CJK UNIFIED ", "IDEOGRAPH-6253|IDEOGRAPH-76D7"),
  (0x1F247, "TORTOISE SHELL BRACKETED CJK UNIFIED ", "IDEOGRAPH-52DD|IDEOGRAPH-6557"),
  (0x1F250, "CIRCLED IDEOGRAPH ", "ADVANTAGE|ACCEPT"),
  (0x1F260, "ROUNDED SYMBOL FOR ", "FU|LU|SHOU|XI|SHUANGXI|CAI"),
  (0x1F300, "", "CYCLONE|FOGGY|CLOSED UMBRELLA"),
  (0x1F303, "", "NIGHT WITH STARS|SUNRISE OVER MOUNTAINS|SUNRISE|CITYSCAPE AT DUSK"),
  (0x1F307, "", "SUNSET OVER BUILDINGS|RAINBOW|BRIDGE AT NIGHT|WATER WAVE|VOLCANO|MILKY WAY"),
  (0x1F30D, "EARTH GLOBE ", "EUROPE-AFRICA|AMERICAS|ASIA-AUSTRALIA"),
  (0x1F310, "", "GLOBE WITH MERIDIANS|NEW MOON SYMBOL"),
  (0x1F312, "", "WAXING CRESCENT MOON SYMBOL|FIRST QUARTER MOON SYMBOL|WAXING GIBBOUS MOON SYMBOL"),
  (0x1F315, "", "FULL MOON SYMBOL|WANING GIBBOUS MOON SYMBOL|LAST QUARTER MOON SYMBOL"),
  (0x1F318, "", "WANING CRESCENT MOON SYMBOL|CRESCENT MOON|NEW MOON WITH FACE"),
  (0x1F31B, "", "FIRST QUARTER MOON WITH FACE|LAST QUARTER MOON WITH FACE|FULL MOON WITH FACE"),
  (0x1F31E, "", "SUN WITH FACE|GLOWING STAR|SHOOTING STAR|THERMOMETER|BLACK DROPLET|WHITE SUN"),
  (0x1F324, "WHITE SUN ", "WITH SMALL CLOUD|BEHIND CLOUD|BEHIND CLOUD WITH RAIN"),
  (0x1F327, "CLOUD WITH ", "RAIN|SNOW|LIGHTNING|TORNADO"),
  (0x1F32B, "", "FOG|WIND BLOWING FACE|HOT DOG|TACO|BURRITO|CHESTNUT"),
  (0x1F331, "", "SEEDLING|EVERGREEN TREE|DECIDUOUS TREE|PALM TREE|CACTUS|HOT PEPPER|TULIP"),
  (0x1F338, "", "CHERRY BLOSSOM|ROSE|HIBISCUS|SUNFLOWER|BLOSSOM|EAR OF MAIZE|EAR OF RICE|HERB"),
  (0x1F340, "", "FOUR LEAF CLOVER|MAPLE LEAF|FALLEN LEAF|LEAF FLUTTERING IN WIND|MUSHROOM|TOMATO"),
  (0x1F346, "", "AUBERGINE|GRAPES|MELON|WATERMELON|TANGERINE|LEMON|BANANA|PINEAPPLE|RED APPLE"),
  (0x1F34F, "", "GREEN APPLE|PEAR|PEACH|CHERRIES|STRAWBERRY|HAMBURGER|SLICE OF PIZZA|MEAT ON BONE"),
  (0x1F357, "", "POULTRY LEG|RICE CRACKER|RICE BALL|COOKED RICE|CURRY AND RICE|STEAMING BOWL"),
  (0x1F35D, "", "SPAGHETTI|BREAD|FRENCH FRIES|ROASTED SWEET POTATO|DANGO|ODEN|SUSHI|FRIED SHRIMP"),
  (0x1F365, "", "FISH CAKE WITH SWIRL DESIGN|SOFT ICE CREAM|SHAVED ICE|ICE CREAM|DOUGHNUT"),
  (0x1F36A, "", "COOKIE|CHOCOLATE BAR|CANDY|LOLLIPOP|CUSTARD|HONEY POT|SHORTCAKE|BENTO BOX"),
  (0x1F372, "", "POT OF FOOD|COOKING|FORK AND KNIFE|TEACUP WITHOUT HANDLE|SAKE BOTTLE AND CUP"),
  (0x1F377, "", "WINE GLASS|COCKTAIL GLASS|TROPICAL DRINK|BEER MUG|CLINKING BEER MUGS"),
  (0x1F37C, "", "BABY BOTTLE|FORK AND KNIFE WITH PLATE|BOTTLE WITH POPPING CORK"),
  (0x1F37F, "", "POPCORN|RIBBON|WRAPPED PRESENT|BIRTHDAY CAKE|JACK-O-LANTERN"),
  (0x1F384, "", "CHRISTMAS TREE|FATHER CHRISTMAS|FIREWORKS|FIREWORK SPARKLER|BALLOON|PARTY POPPER"),
  (0x1F38A, "", "CONFETTI BALL|TANABATA TREE|CROSSED FLAGS|PINE DECORATION|JAPANESE DOLLS"),
  (0x1F38F, "", "CARP STREAMER|WIND CHIME|MOON VIEWING CEREMONY|SCHOOL SATCHEL|GRADUATION CAP"),
  (0x1F394, "", "HEART WITH TIP ON THE LEFT|BOUQUET OF FLOWERS|MILITARY MEDAL|REMINDER RIBBON"),
  (0x1F398, "", "MUSICAL KEYBOARD WITH JACKS|STUDIO MICROPHONE|LEVEL SLIDER|CONTROL KNOBS"),
  (0x1F39C, "BEAMED ", "ASCENDING MUSICAL NOTES|DESCENDING MUSICAL NOTES"),
  (0x1F39E, "", "FILM FRAMES|ADMISSION TICKETS|CAROUSEL HORSE|FERRIS WHEEL|ROLLER COASTER"),
  (0x1F3A3, "", "FISHING POLE AND FISH|MICROPHONE|MOVIE CAMERA|CINEMA|HEADPHONE|ARTIST PALETTE"),
  (0x1F3A9, "", "TOP HAT|CIRCUS TENT|TICKET|CLAPPER BOARD|PERFORMING ARTS|VIDEO GAME"),
  (0x1F3AF, "", "DIRECT HIT|SLOT MACHINE|BILLIARDS|GAME DIE|BOWLING|FLOWER PLAYING CARDS"),
  (0x1F3B5, "", "MUSICAL NOTE|MULTIPLE MUSICAL NOTES|SAXOPHONE|GUITAR|MUSICAL KEYBOARD"),
  (0x1F3BA, "", "TRUMPET|VIOLIN|MUSICAL SCORE|RUNNING SHIRT WITH SASH|TENNIS RACQUET AND BALL"),
  (0x1F3BF, "", "SKI AND SKI BOOT|BASKETBALL AND HOOP|CHEQUERED FLAG|SNOWBOARDER"),
  (0x1F3C3, "", "RUNNER|SURFER|SPORTS MEDAL|TROPHY|HORSE RACING|AMERICAN FOOTBALL|RUGBY FOOTBALL"),
  (0x1F3CA, "", "SWIMMER|WEIGHT LIFTER|GOLFER|RACING MOTORCYCLE|RACING CAR|CRICKET BAT AND BALL"),
  (0x1F3D0, "", "VOLLEYBALL|FIELD HOCKEY STICK AND BALL|ICE HOCKEY STICK AND PUCK"),
  (0x1F3D3, "", "TABLE TENNIS PADDLE AND BALL|SNOW CAPPED MOUNTAIN|CAMPING|BEACH WITH UMBRELLA"),
  (0x1F3D7, "", "BUILDING CONSTRUCTION|HOUSE BUILDINGS|CITYSCAPE|DERELICT HOUSE BUILDING"),
  (0x1F3DB, "", "CLASSICAL BUILDING|DESERT|DESERT ISLAND|NATIONAL PARK|STADIUM|HOUSE BUILDING"),
  (0x1F3E1, "", "HOUSE WITH GARDEN|OFFICE BUILDING|JAPANESE POST OFFICE|EUROPEAN POST OFFICE"),
  (0x1F3E5, "", "HOSPITAL|BANK|AUTOMATED TELLER MACHINE|HOTEL|LOVE HOTEL|CONVENIENCE STORE"),
  (0x1F3EB, "", "SCHOOL|DEPARTMENT STORE|FACTORY|IZAKAYA LANTERN|JAPANESE CASTLE|EUROPEAN CASTLE"),
  (0x1F3F1, "", "WHITE PENNANT|BLACK PENNANT|WAVING WHITE FLAG|WAVING BLACK FLAG|ROSETTE"),
  (0x1F3F6, "", "BLACK ROSETTE|LABEL|BADMINTON RACQUET AND SHUTTLECOCK|BOW AND ARROW|AMPHORA"),
  (0x1F3FB, "EMOJI MODIFIER FITZPATRICK ", "TYPE-1-2|TYPE-3|TYPE-4|TYPE-5|TYPE-6"),
  (0x1F400, "", "RAT|MOUSE|OX|WATER BUFFALO|COW|TIGER|LEOPARD|RABBIT|CAT"),
  (0x1F409, "", "DRAGON|CROCODILE|WHALE|SNAIL|SNAKE|HORSE|RAM|GOAT|SHEEP|MONKEY|ROOSTER|CHICKEN"),
  (0x1F415, "", "DOG|PIG|BOAR|ELEPHANT|OCTOPUS|SPIRAL SHELL|BUG|ANT|HONEYBEE|LADY BEETLE|FISH"),
  (0x1F420, "", "TROPICAL FISH|BLOWFISH|TURTLE|HATCHING CHICK|BABY CHICK|FRONT-FACING BABY CHICK"),
  (0x1F426, "", "BIRD|PENGUIN|KOALA|POODLE|DROMEDARY CAMEL|BACTRIAN CAMEL|DOLPHIN"),
  (0x1F42D, "", "MOUSE FACE|COW FACE|TIGER FACE|RABBIT FACE|CAT FACE|DRAGON FACE|SPOUTING WHALE"),
  (0x1F434, "", "HORSE FACE|MONKEY FACE|DOG FACE|PIG FACE|FROG FACE|HAMSTER FACE|WOLF FACE"),
  (0x1F43B, "", "BEAR FACE|PANDA FACE|PIG NOSE|PAW PRINTS|CHIPMUNK|EYES|EYE|EAR|NOSE|MOUTH|TONGUE"),
  (0x1F446, "WHITE ", "UP POINTING BACKHAND INDEX|DOWN POINTING BACKHAND INDEX"),
  (0x1F448, "WHITE ", "LEFT POINTING BACKHAND INDEX|RIGHT POINTING BACKHAND INDEX"),
  (0x1F44A, "", "FISTED HAND SIGN|WAVING HAND SIGN|OK HAND SIGN|THUMBS UP SIGN"),
  (0x1F44E, "", "THUMBS DOWN SIGN|CLAPPING HANDS SIGN|OPEN HANDS SIGN|CROWN|WOMANS HAT|EYEGLASSES"),
  (0x1F454, "", "NECKTIE|T-SHIRT|JEANS|DRESS|KIMONO|BIKINI|WOMANS CLOTHES|PURSE|HANDBAG"),
  (0x1F45D, "", "POUCH|MANS SHOE|ATHLETIC SHOE|HIGH-HEELED SHOE|WOMANS SANDAL|WOMANS BOOTS"),
  (0x1F463, "", "FOOTPRINTS|BUST IN SILHOUETTE|BUSTS IN SILHOUETTE|BOY|GIRL|MAN|WOMAN"),
  (0x1F46A, "", "FAMILY|MAN AND WOMAN HOLDING HANDS|TWO MEN HOLDING HANDS|TWO WOMEN HOLDING HANDS"),
  (0x1F46E, "", "POLICE OFFICER|WOMAN WITH BUNNY EARS|BRIDE WITH VEIL|PERSON WITH BLOND HAIR"),
  (0x1F472, "MAN WITH ", "GUA PI MAO|TURBAN"),
  (0x1F474, "", "OLDER MAN|OLDER WOMAN|BABY|CONSTRUCTION WORKER"),
  (0x1F478, "", "PRINCESS|JAPANESE OGRE|JAPANESE GOBLIN|GHOST|BABY ANGEL|EXTRATERRESTRIAL ALIEN"),
  (0x1F47E, "", "ALIEN MONSTER|IMP|SKULL|INFORMATION DESK PERSON|GUARDSMAN|DANCER"),
  (0x1F484, "", "LIPSTICK|NAIL POLISH|FACE MASSAGE|HAIRCUT|BARBER POLE|SYRINGE|PILL|KISS MARK"),
  (0x1F48C, "", "LOVE LETTER|RING|GEM STONE|KISS|BOUQUET|COUPLE WITH HEART|WEDDING|BEATING HEART"),
  (0x1F494, "", "BROKEN HEART|TWO HEARTS|SPARKLING HEART|GROWING HEART|HEART WITH ARROW"),
  (0x1F499, "", "BLUE HEART|GREEN HEART|YELLOW HEART|PURPLE HEART|HEART WITH RIBBON"),
  (0x1F49E, "", "REVOLVING HEARTS|HEART DECORATION|DIAMOND SHAPE WITH A DOT INSIDE"),
  (0x1F4A1, "", "ELECTRIC LIGHT BULB|ANGER SYMBOL|BOMB|SLEEPING SYMBOL"),
  (0x1F4A5, "", "COLLISION SYMBOL|SPLASHING SWEAT SYMBOL|DROPLET|DASH SYMBOL|PILE OF POO"),
  (0x1F4AA, "", "FLEXED BICEPS|DIZZY SYMBOL|SPEECH BALLOON|THOUGHT BALLOON|WHITE FLOWER"),
  (0x1F4AF, "", "HUNDRED POINTS SYMBOL|MONEY BAG|CURRENCY EXCHANGE|HEAVY DOLLAR SIGN|CREDIT CARD"),
  (0x1F4B4, "BANKNOTE WITH ", "YEN SIGN|DOLLAR SIGN|EURO SIGN|POUND SIGN"),
  (0x1F4B8, "", "MONEY WITH WINGS|CHART WITH UPWARDS TREND AND YEN SIGN|SEAT|PERSONAL COMPUTER"),
  (0x1F4BC, "", "BRIEFCASE|MINIDISC|FLOPPY DISK|OPTICAL DISC|DVD|FILE FOLDER|OPEN FILE FOLDER"),
  (0x1F4C3, "", "PAGE WITH CURL|PAGE FACING UP|CALENDAR|TEAR-OFF CALENDAR|CARD INDEX"),
  (0x1F4C8, "CHART WITH ", "UPWARDS TREND|DOWNWARDS TREND"),
  (0x1F4CA, "", "BAR CHART|CLIPBOARD|PUSHPIN|ROUND PUSHPIN|PAPERCLIP|STRAIGHT RULER"),
  (0x1F4D0, "", "TRIANGULAR RULER|BOOKMARK TABS|LEDGER|NOTEBOOK|NOTEBOOK WITH DECORATIVE COVER"),
  (0x1F4D5, "", "CLOSED BOOK|OPEN BOOK|GREEN BOOK|BLUE BOOK|ORANGE BOOK|BOOKS"),
  (0x1F4DB, "", "NAME BADGE|SCROLL|MEMO|TELEPHONE RECEIVER|PAGER|FAX MACHINE|SATELLITE ANTENNA"),
  (0x1F4E2, "", "PUBLIC ADDRESS LOUDSPEAKER|CHEERING MEGAPHONE|OUTBOX TRAY|INBOX TRAY"),
  (0x1F4E6, "", "PACKAGE|E-MAIL SYMBOL|INCOMING ENVELOPE|ENVELOPE WITH DOWNWARDS ARROW ABOVE"),
  (0x1F4EA, "CLOSED MAILBOX WITH ", "LOWERED FLAG|RAISED FLAG"),
  (0x1F4EC, "OPEN MAILBOX WITH ", "RAISED FLAG|LOWERED FLAG"),
  (0x1F4EE, "", "POSTBOX|POSTAL HORN|NEWSPAPER|MOBILE PHONE"),
  (0x1F4F2, "", "MOBILE PHONE WITH RIGHTWARDS ARROW AT LEFT|VIBRATION MODE|MOBILE PHONE OFF"),
  (0x1F4F5, "", "NO MOBILE PHONES|ANTENNA WITH BARS|CAMERA|CAMERA WITH FLASH|VIDEO CAMERA"),
  (0x1F4FA, "", "TELEVISION|RADIO|VIDEOCASSETTE|FILM PROJECTOR|PORTABLE STEREO|PRAYER BEADS"),
  (0x1F500, "", "TWISTED RIGHTWARDS ARROWS|CLOCKWISE RIGHTWARDS AND LEFTWARDS OPEN CIRCLE ARROWS"),
  (0x1F502, "", "CLOCKWISE RIGHTWARDS AND LEFTWARDS OPEN CIRCLE ARROWS WITH CIRCLED ONE OVERLAY"),
  (0x1F503, "", "CLOCKWISE DOWNWARDS AND UPWARDS OPEN CIRCLE ARROWS"),
  (0x1F504, "", "ANTICLOCKWISE DOWNWARDS AND UPWARDS OPEN CIRCLE ARROWS|LOW BRIGHTNESS SYMBOL"),
  (0x1F506, "", "HIGH BRIGHTNESS SYMBOL|SPEAKER WITH CANCELLATION STROKE|SPEAKER"),
  (0x1F509, "SPEAKER WITH ", "ONE SOUND WAVE|THREE SOUND WAVES"),
  (0x1F50B, "", "BATTERY|ELECTRIC PLUG|LEFT-POINTING MAGNIFYING GLASS"),
  (0x1F50E, "", "RIGHT-POINTING MAGNIFYING GLASS|LOCK WITH INK PEN|CLOSED LOCK WITH KEY"),
  (0x1F511, "", "KEY|LOCK|OPEN LOCK|BELL|BELL WITH CANCELLATION STROKE|BOOKMARK|LINK SYMBOL"),
  (0x1F518, "", "RADIO BUTTON|BACK WITH LEFTWARDS ARROW ABOVE|END WITH LEFTWARDS ARROW ABOVE"),
  (0x1F51B, "", "ON WITH EXCLAMATION MARK WITH LEFT RIGHT ARROW ABOVE"),
  (0x1F51C, "", "SOON WITH RIGHTWARDS ARROW ABOVE|TOP WITH UPWARDS ARROW ABOVE"),
  (0x1F51E, "", "NO ONE UNDER EIGHTEEN SYMBOL|KEYCAP TEN|INPUT SYMBOL FOR LATIN CAPITAL LETTERS"),
  (0x1F521, "INPUT SYMBOL FOR ", "LATIN SMALL LETTERS|NUMBERS|SYMBOLS|LATIN LETTERS"),
  (0x1F525, "", "FIRE|ELECTRIC TORCH|WRENCH|HAMMER|NUT AND BOLT|HOCHO|PISTOL|MICROSCOPE|TELESCOPE"),
  (0x1F52E, "", "CRYSTAL BALL|SIX POINTED STAR WITH MIDDLE DOT|JAPANESE SYMBOL FOR BEGINNER"),
  (0x1F531, "", "TRIDENT EMBLEM|BLACK SQUARE BUTTON|WHITE SQUARE BUTTON"),
  (0x1F534, "LARGE ", "RED CIRCLE|BLUE CIRCLE|ORANGE DIAMOND|BLUE DIAMOND"),
  (0x1F538, "SMALL ", "ORANGE DIAMOND|BLUE DIAMOND"),
  (0x1F53A, "", "UP-POINTING RED TRIANGLE|DOWN-POINTING RED TRIANGLE"),
  (0x1F53C, "", "UP-POINTING SMALL RED TRIANGLE|DOWN-POINTING SMALL RED TRIANGLE"),
  (0x1F53E, "", "LOWER RIGHT SHADOWED WHITE CIRCLE|UPPER RIGHT SHADOWED WHITE CIRCLE"),
  (0x1F540, "", "CIRCLED CROSS POMMEE|CROSS POMMEE WITH HALF-CIRCLE BELOW|CROSS POMMEE"),
  (0x1F543, "NOTCHED ", "LEFT SEMICIRCLE WITH THREE DOTS|RIGHT SEMICIRCLE WITH THREE DOTS"),
  (0x1F545, "", "SYMBOL FOR MARKS CHAPTER"),
  (0x1F546, "", "WHITE LATIN CROSS|HEAVY LATIN CROSS|CELTIC CROSS|OM SYMBOL"),
  (0x1F54A, "", "DOVE OF PEACE|KAABA|MOSQUE|SYNAGOGUE|MENORAH WITH NINE BRANCHES|BOWL OF HYGIEIA"),
  (0x1F550, "CLOCK FACE ", "ONE OCLOCK|TWO OCLOCK|THREE OCLOCK|FOUR OCLOCK"),
  (0x1F554, "CLOCK FACE ", "FIVE OCLOCK|SIX OCLOCK|SEVEN OCLOCK|EIGHT OCLOCK|NINE OCLOCK"),
  (0x1F559, "CLOCK FACE ", "TEN OCLOCK|ELEVEN OCLOCK|TWELVE OCLOCK|ONE-THIRTY|TWO-THIRTY"),
  (0x1F55E, "CLOCK FACE ", "THREE-THIRTY|FOUR-THIRTY|FIVE-THIRTY|SIX-THIRTY|SEVEN-THIRTY"),
  (0x1F563, "CLOCK FACE ", "EIGHT-THIRTY|NINE-THIRTY|TEN-THIRTY|ELEVEN-THIRTY|TWELVE-THIRTY"),
  (0x1F568, "RIGHT ", "SPEAKER|SPEAKER WITH ONE SOUND WAVE|SPEAKER WITH THREE SOUND WAVES"),
  (0x1F56B, "", "BULLHORN|BULLHORN WITH SOUND WAVES"),
  (0x1F56D, "", "RINGING BELL|BOOK|CANDLE|MANTELPIECE CLOCK|BLACK SKULL AND CROSSBONES"),
  (0x1F572, "", "NO PIRACY|HOLE|MAN IN BUSINESS SUIT LEVITATING|SLEUTH OR SPY|DARK SUNGLASSES"),
  (0x1F577, "", "SPIDER|SPIDER WEB|JOYSTICK|MAN DANCING|LEFT HAND TELEPHONE RECEIVER"),
  (0x1F57C, "", "TELEPHONE RECEIVER WITH PAGE|RIGHT HAND TELEPHONE RECEIVER"),
  (0x1F57E, "", "WHITE TOUCHTONE TELEPHONE|BLACK TOUCHTONE TELEPHONE|TELEPHONE ON TOP OF MODEM"),
  (0x1F581, "", "CLAMSHELL MOBILE PHONE|BACK OF ENVELOPE|STAMPED ENVELOPE|ENVELOPE WITH LIGHTNING"),
  (0x1F585, "", "FLYING ENVELOPE|PEN OVER STAMPED ENVELOPE|LINKED PAPERCLIPS|BLACK PUSHPIN"),
  (0x1F589, "LOWER LEFT ", "PENCIL|BALLPOINT PEN|FOUNTAIN PEN|PAINTBRUSH|CRAYON"),
  (0x1F58E, "", "LEFT WRITING HAND|TURNED OK HAND SIGN|RAISED HAND WITH FINGERS SPLAYED"),
  (0x1F591, "REVERSED ", "RAISED HAND WITH FINGERS SPLAYED|THUMBS UP SIGN"),
  (0x1F593, "REVERSED ", "THUMBS DOWN SIGN|VICTORY HAND|HAND WITH MIDDLE FINGER EXTENDED"),
  (0x1F596, "", "RAISED HAND WITH PART BETWEEN MIDDLE AND RING FINGERS"),
  (0x1F597, "", "WHITE DOWN POINTING LEFT HAND INDEX"),
  (0x1F598, "SIDEWAYS WHITE ", "LEFT POINTING INDEX|RIGHT POINTING INDEX"),
  (0x1F59A, "SIDEWAYS BLACK ", "LEFT POINTING INDEX|RIGHT POINTING INDEX"),
  (0x1F59C, "BLACK ", "LEFT POINTING BACKHAND INDEX|RIGHT POINTING BACKHAND INDEX"),
  (0x1F59E, "SIDEWAYS WHITE ", "UP POINTING INDEX|DOWN POINTING INDEX"),
  (0x1F5A0, "SIDEWAYS BLACK ", "UP POINTING INDEX|DOWN POINTING INDEX"),
  (0x1F5A2, "BLACK ", "UP POINTING BACKHAND INDEX|DOWN POINTING BACKHAND INDEX|HEART"),
  (0x1F5A5, "", "DESKTOP COMPUTER|KEYBOARD AND MOUSE"),
  (0x1F5A7, "", "THREE NETWORKED COMPUTERS|PRINTER|POCKET CALCULATOR|BLACK HARD SHELL FLOPPY DISK"),
  (0x1F5AB, "", "WHITE HARD SHELL FLOPPY DISK|SOFT SHELL FLOPPY DISK|TAPE CARTRIDGE"),
  (0x1F5AE, "", "WIRED KEYBOARD|ONE BUTTON MOUSE|TWO BUTTON MOUSE|THREE BUTTON MOUSE|TRACKBALL"),
  (0x1F5B3, "", "OLD PERSONAL COMPUTER|HARD DISK|SCREEN|PRINTER ICON|FAX ICON|OPTICAL DISC ICON"),
  (0x1F5B9, "DOCUMENT WITH ", "TEXT|TEXT AND PICTURE|PICTURE"),
  (0x1F5BC, "FRAME WITH ", "PICTURE|TILES|AN X"),
  (0x1F5BF, "", "BLACK FOLDER|FOLDER|OPEN FOLDER|CARD INDEX DIVIDERS|CARD FILE BOX|FILE CABINET"),
  (0x1F5C5, "EMPTY ", "NOTE|NOTE PAGE|NOTE PAD"),
  (0x1F5C8, "", "NOTE|NOTE PAGE|NOTE PAD|EMPTY DOCUMENT|EMPTY PAGE|EMPTY PAGES|DOCUMENT"),
  (0x1F5CF, "", "PAGE|PAGES|WASTEBASKET|SPIRAL NOTE PAD|SPIRAL CALENDAR PAD|DESKTOP WINDOW"),
  (0x1F5D5, "", "MINIMIZE|MAXIMIZE|OVERLAP|CLOCKWISE RIGHT AND LEFT SEMICIRCLE ARROWS"),
  (0x1F5D9, "", "CANCELLATION X|INCREASE FONT SIZE SYMBOL"),
  (0x1F5DB, "", "DECREASE FONT SIZE SYMBOL|COMPRESSION|OLD KEY|ROLLED-UP NEWSPAPER"),
  (0x1F5DF, "", "PAGE WITH CIRCLED TEXT|STOCK CHART|DAGGER KNIFE|LIPS|SPEAKING HEAD IN SILHOUETTE"),
  (0x1F5E4, "THREE RAYS ", "ABOVE|BELOW|LEFT|RIGHT"),
  (0x1F5E8, "", "LEFT SPEECH BUBBLE|RIGHT SPEECH BUBBLE|TWO SPEECH BUBBLES"),
  (0x1F5EB, "", "THREE SPEECH BUBBLES|LEFT THOUGHT BUBBLE|RIGHT THOUGHT BUBBLE|LEFT ANGER BUBBLE"),
  (0x1F5EF, "", "RIGHT ANGER BUBBLE|MOOD BUBBLE|LIGHTNING MOOD BUBBLE|LIGHTNING MOOD"),
  (0x1F5F3, "BALLOT ", "BOX WITH BALLOT|SCRIPT X|BOX WITH SCRIPT X|BOLD SCRIPT X"),
  (0x1F5F7, "", "BALLOT BOX WITH BOLD SCRIPT X|LIGHT CHECK MARK|BALLOT BOX WITH BOLD CHECK"),
  (0x1F5FA, "", "WORLD MAP|MOUNT FUJI|TOKYO TOWER|STATUE OF LIBERTY|SILHOUETTE OF JAPAN"),
  (0x1F5FF, "", "MOYAI|GRINNING FACE|GRINNING FACE WITH SMILING EYES|FACE WITH TEARS OF JOY"),
  (0x1F603, "SMILING FACE WITH OPEN ", "MOUTH|MOUTH AND SMILING EYES|MOUTH AND COLD SWEAT"),
  (0x1F606, "SMILING FACE WITH ", "OPEN MOUTH AND TIGHTLY-CLOSED EYES|HALO|HORNS"),
  (0x1F609, "", "WINKING FACE"),
  (0x1F60A, "", "SMILING FACE WITH SMILING EYES|FACE SAVOURING DELICIOUS FOOD|RELIEVED FACE"),
  (0x1F60D, "SMILING FACE WITH ", "HEART-SHAPED EYES|SUNGLASSES"),
  (0x1F60F, "", "SMIRKING FACE"),
  (0x1F610, "", "NEUTRAL FACE|EXPRESSIONLESS FACE|UNAMUSED FACE|FACE WITH COLD SWEAT"),
  (0x1F614, "", "PENSIVE FACE|CONFUSED FACE|CONFOUNDED FACE|KISSING FACE|FACE THROWING A KISS"),
  (0x1F619, "KISSING FACE WITH ", "SMILING EYES|CLOSED EYES"),
  (0x1F61B, "FACE WITH STUCK-OUT ", "TONGUE|TONGUE AND WINKING EYE|TONGUE AND TIGHTLY-CLOSED EYES"),
  (0x1F61E, "", "DISAPPOINTED FACE|WORRIED FACE|ANGRY FACE|POUTING FACE|CRYING FACE"),
  (0x1F623, "", "PERSEVERING FACE|FACE WITH LOOK OF TRIUMPH|DISAPPOINTED BUT RELIEVED FACE"),
  (0x1F626, "", "FROWNING FACE WITH OPEN MOUTH|ANGUISHED FACE|FEARFUL FACE|WEARY FACE|SLEEPY FACE"),
  (0x1F62B, "", "TIRED FACE|GRIMACING FACE|LOUDLY CRYING FACE|FACE WITH OPEN MOUTH|HUSHED FACE"),
  (0x1F630, "", "FACE WITH OPEN MOUTH AND COLD SWEAT|FACE SCREAMING IN FEAR|ASTONISHED FACE"),
  (0x1F633, "", "FLUSHED FACE|SLEEPING FACE|DIZZY FACE|FACE WITHOUT MOUTH|FACE WITH MEDICAL MASK"),
  (0x1F638, "", "GRINNING CAT FACE WITH SMILING EYES|CAT FACE WITH TEARS OF JOY"),
  (0x1F63A, "SMILING CAT FACE WITH ", "OPEN MOUTH|HEART-SHAPED EYES"),
  (0x1F63C, "", "CAT FACE WITH WRY SMILE"),
  (0x1F63D, "", "KISSING CAT FACE WITH CLOSED EYES|POUTING CAT FACE|CRYING CAT FACE"),
  (0x1F640, "", "WEARY CAT FACE|SLIGHTLY FROWNING FACE|SLIGHTLY SMILING FACE|UPSIDE-DOWN FACE"),
  (0x1F644, "FACE WITH ", "ROLLING EYES|NO GOOD GESTURE|OK GESTURE"),
  (0x1F647, "", "PERSON BOWING DEEPLY|SEE-NO-EVIL MONKEY"),
  (0x1F649, "", "HEAR-NO-EVIL MONKEY|SPEAK-NO-EVIL MONKEY|HAPPY PERSON RAISING ONE HAND"),
  (0x1F64C, "PERSON ", "RAISING BOTH HANDS IN CELEBRATION|FROWNING|WITH POUTING FACE"),
  (0x1F64F, "", "PERSON WITH FOLDED HANDS|NORTH WEST POINTING LEAF"),
  (0x1F651, "", "SOUTH WEST POINTING LEAF|NORTH EAST POINTING LEAF|SOUTH EAST POINTING LEAF"),
  (0x1F654, "TURNED ", "NORTH WEST POINTING LEAF|SOUTH WEST POINTING LEAF"),
  (0x1F656, "TURNED ", "NORTH EAST POINTING LEAF|SOUTH EAST POINTING LEAF"),
  (0x1F658, "", "NORTH WEST POINTING VINE LEAF|SOUTH WEST POINTING VINE LEAF"),
  (0x1F65A, "", "NORTH EAST POINTING VINE LEAF|SOUTH EAST POINTING VINE LEAF"),
  (0x1F65C, "HEAVY ", "NORTH WEST POINTING VINE LEAF|SOUTH WEST POINTING VINE LEAF"),
  (0x1F65E, "HEAVY ", "NORTH EAST POINTING VINE LEAF|SOUTH EAST POINTING VINE LEAF"),
  (0x1F660, "", "NORTH WEST POINTING BUD|SOUTH WEST POINTING BUD"),
  (0x1F662, "", "NORTH EAST POINTING BUD|SOUTH EAST POINTING BUD|HEAVY NORTH WEST POINTING BUD"),
  (0x1F665, "HEAVY ", "SOUTH WEST POINTING BUD|NORTH EAST POINTING BUD|SOUTH EAST POINTING BUD"),
  (0x1F668, "HOLLOW QUILT SQUARE ", "ORNAMENT|ORNAMENT IN BLACK SQUARE"),
  (0x1F66A, "SOLID QUILT SQUARE ", "ORNAMENT|ORNAMENT IN BLACK SQUARE"),
  (0x1F66C, "", "LEFTWARDS ROCKET|UPWARDS ROCKET|RIGHTWARDS ROCKET"),
  (0x1F66F, "", "DOWNWARDS ROCKET|SCRIPT LIGATURE ET ORNAMENT|HEAVY SCRIPT LIGATURE ET ORNAMENT"),
  (0x1F672, "", "LIGATURE OPEN ET ORNAMENT|HEAVY LIGATURE OPEN ET ORNAMENT"),
  (0x1F674, "", "HEAVY AMPERSAND ORNAMENT|SWASH AMPERSAND ORNAMENT"),
  (0x1F676, "", "SANS-SERIF HEAVY DOUBLE TURNED COMMA QUOTATION MARK ORNAMENT"),
  (0x1F677, "", "SANS-SERIF HEAVY DOUBLE COMMA QUOTATION MARK ORNAMENT"),
  (0x1F678, "", "SANS-SERIF HEAVY LOW DOUBLE COMMA QUOTATION MARK ORNAMENT"),
  (0x1F679, "", "HEAVY INTERROBANG ORNAMENT|SANS-SERIF INTERROBANG ORNAMENT"),
  (0x1F67B, "", "HEAVY SANS-SERIF INTERROBANG ORNAMENT|VERY HEAVY SOLIDUS"),
  (0x1F67D, "", "VERY HEAVY REVERSE SOLIDUS|CHECKER BOARD|REVERSE CHECKER BOARD|ROCKET|HELICOPTER"),
  (0x1F682, "", "STEAM LOCOMOTIVE|RAILWAY CAR|HIGH-SPEED TRAIN|HIGH-SPEED TRAIN WITH BULLET NOSE"),
  (0x1F686, "", "TRAIN|METRO|LIGHT RAIL|STATION|TRAM|TRAM CAR|BUS|ONCOMING BUS|TROLLEYBUS"),
  (0x1F68F, "", "BUS STOP|MINIBUS|AMBULANCE|FIRE ENGINE|POLICE CAR|ONCOMING POLICE CAR|TAXI"),
  (0x1F696, "", "ONCOMING TAXI|AUTOMOBILE|ONCOMING AUTOMOBILE|RECREATIONAL VEHICLE|DELIVERY TRUCK"),
  (0x1F69B, "", "ARTICULATED LORRY|TRACTOR|MONORAIL|MOUNTAIN RAILWAY|SUSPENSION RAILWAY"),
  (0x1F6A0, "", "MOUNTAIN CABLEWAY|AERIAL TRAMWAY|SHIP|ROWBOAT|SPEEDBOAT|HORIZONTAL TRAFFIC LIGHT"),
  (0x1F6A6, "", "VERTICAL TRAFFIC LIGHT|CONSTRUCTION SIGN|POLICE CARS REVOLVING LIGHT"),
  (0x1F6A9, "", "TRIANGULAR FLAG ON POST|DOOR|NO ENTRY SIGN|SMOKING SYMBOL|NO SMOKING SYMBOL"),
  (0x1F6AE, "", "PUT LITTER IN ITS PLACE SYMBOL|DO NOT LITTER SYMBOL|POTABLE WATER SYMBOL"),
  (0x1F6B1, "", "NON-POTABLE WATER SYMBOL|BICYCLE|NO BICYCLES|BICYCLIST|MOUNTAIN BICYCLIST"),
  (0x1F6B6, "", "PEDESTRIAN|NO PEDESTRIANS|CHILDREN CROSSING|MENS SYMBOL|WOMENS SYMBOL"),
  (0x1F6BB, "", "RESTROOM|BABY SYMBOL|TOILET|WATER CLOSET|SHOWER|BATH|BATHTUB|PASSPORT CONTROL"),
  (0x1F6C3, "", "CUSTOMS|BAGGAGE CLAIM|LEFT LUGGAGE|TRIANGLE WITH ROUNDED CORNERS|PROHIBITED SIGN"),
  (0x1F6C8, "", "CIRCLED INFORMATION SOURCE|BOYS SYMBOL|GIRLS SYMBOL|COUCH AND LAMP"),
  (0x1F6CC, "", "SLEEPING ACCOMMODATION|SHOPPING BAGS|BELLHOP BELL|BED|PLACE OF WORSHIP"),
  (0x1F6D1, "", "OCTAGONAL SIGN|SHOPPING TROLLEY|STUPA|PAGODA|HINDU TEMPLE|HUT|ELEVATOR"),
  (0x1F6DD, "", "PLAYGROUND SLIDE|WHEEL"),
  (0x1F6DF, "", "RING BUOY|HAMMER AND WRENCH|SHIELD|OIL DRUM|MOTORWAY|RAILWAY TRACK|MOTOR BOAT"),
  (0x1F6E6, "UP-POINTING ", "MILITARY AIRPLANE|AIRPLANE|SMALL AIRPLANE"),
  (0x1F6E9, "", "SMALL AIRPLANE|NORTHEAST-POINTING AIRPLANE|AIRPLANE DEPARTURE|AIRPLANE ARRIVING"),
  (0x1F6F0, "", "SATELLITE"),
  (0x1F6F1, "", "ONCOMING FIRE ENGINE|DIESEL LOCOMOTIVE|PASSENGER SHIP|SCOOTER|MOTOR SCOOTER"),
  (0x1F6F6, "", "CANOE|SLED|FLYING SAUCER|SKATEBOARD|AUTO RICKSHAW|PICKUP TRUCK|ROLLER SKATE"),
  (0x1F700, "ALCHEMICAL SYMBOL FOR ", "QUINTESSENCE|AIR|FIRE|EARTH|WATER|AQUAFORTIS|AQUA REGIA"),
  (0x1F707, "ALCHEMICAL SYMBOL FOR ", "AQUA REGIA-2|AQUA VITAE|AQUA VITAE-2|VINEGAR|VINEGAR-2"),
  (0x1F70C, "ALCHEMICAL SYMBOL FOR ", "VINEGAR-3|SULFUR|PHILOSOPHERS SULFUR|BLACK SULFUR"),
  (0x1F710, "ALCHEMICAL SYMBOL FOR MERCURY ", "SUBLIMATE|SUBLIMATE-2|SUBLIMATE-3"),
  (0x1F713, "ALCHEMICAL SYMBOL FOR ", "CINNABAR|SALT|NITRE|VITRIOL|VITRIOL-2"),
  (0x1F718, "ALCHEMICAL SYMBOL FOR ", "ROCK SALT|ROCK SALT-2|GOLD|SILVER|IRON ORE|IRON ORE-2"),
  (0x1F71E, "ALCHEMICAL SYMBOL FOR ", "CROCUS OF IRON|REGULUS OF IRON|COPPER ORE|IRON-COPPER ORE"),
  (0x1F722, "ALCHEMICAL SYMBOL FOR ", "SUBLIMATE OF COPPER|CROCUS OF COPPER|CROCUS OF COPPER-2"),
  (0x1F725, "ALCHEMICAL SYMBOL FOR ", "COPPER ANTIMONIATE|SALT OF COPPER ANTIMONIATE"),
  (0x1F727, "ALCHEMICAL SYMBOL FOR ", "SUBLIMATE OF SALT OF COPPER|VERDIGRIS|TIN ORE|LEAD ORE"),
  (0x1F72B, "ALCHEMICAL SYMBOL FOR ", "ANTIMONY ORE|SUBLIMATE OF ANTIMONY|SALT OF ANTIMONY"),
  (0x1F72E, "ALCHEMICAL SYMBOL FOR ", "SUBLIMATE OF SALT OF ANTIMONY|VINEGAR OF ANTIMONY"),
  (0x1F730, "ALCHEMICAL SYMBOL FOR REGULUS OF ", "ANTIMONY|ANTIMONY-2"),
  (0x1F732, "ALCHEMICAL SYMBOL FOR ", "REGULUS|REGULUS-2|REGULUS-3"),
  (0x1F735, "ALCHEMICAL SYMBOL FOR ", "REGULUS-4|ALKALI|ALKALI-2|MARCASITE|SAL-AMMONIAC|ARSENIC"),
  (0x1F73B, "ALCHEMICAL SYMBOL FOR ", "REALGAR|REALGAR-2|AURIPIGMENT|BISMUTH ORE|TARTAR|TARTAR-2"),
  (0x1F741, "ALCHEMICAL SYMBOL FOR ", "QUICK LIME|BORAX|BORAX-2|BORAX-3|ALUM|OIL|SPIRIT|TINCTURE"),
  (0x1F749, "ALCHEMICAL SYMBOL FOR ", "GUM|WAX|POWDER|CALX|TUTTY|CAPUT MORTUUM|SCEPTER OF JOVE"),
  (0x1F750, "ALCHEMICAL SYMBOL FOR ", "CADUCEUS|TRIDENT|STARRED TRIDENT|LODESTONE|SOAP|URINE"),
  (0x1F756, "ALCHEMICAL SYMBOL FOR ", "HORSE DUNG|ASHES|POT ASHES|BRICK|POWDERED BRICK|AMALGAM"),
  (0x1F75C, "ALCHEMICAL SYMBOL FOR STRATUM SUPER ", "STRATUM|STRATUM-2"),
  (0x1F75E, "ALCHEMICAL SYMBOL FOR ", "SUBLIMATION|PRECIPITATE|DISTILL|DISSOLVE|DISSOLVE-2"),
  (0x1F763, "ALCHEMICAL SYMBOL FOR ", "PURIFY|PUTREFACTION|CRUCIBLE|CRUCIBLE-2|CRUCIBLE-3"),
  (0x1F768, "ALCHEMICAL SYMBOL FOR ", "CRUCIBLE-4|CRUCIBLE-5|ALEMBIC|BATH OF MARY|BATH OF VAPOURS"),
  (0x1F76D, "ALCHEMICAL SYMBOL FOR ", "RETORT|HOUR|NIGHT|DAY-NIGHT|MONTH|HALF DRAM|HALF OUNCE"),
  (0x1F780, "", "BLACK LEFT-POINTING ISOSCELES RIGHT TRIANGLE"),
  (0x1F781, "", "BLACK UP-POINTING ISOSCELES RIGHT TRIANGLE"),
  (0x1F782, "", "BLACK RIGHT-POINTING ISOSCELES RIGHT TRIANGLE"),
  (0x1F783, "BLACK ", "DOWN-POINTING ISOSCELES RIGHT TRIANGLE|SLIGHTLY SMALL CIRCLE"),
  (0x1F785, "", "MEDIUM BOLD WHITE CIRCLE|BOLD WHITE CIRCLE"),
  (0x1F787, "", "HEAVY WHITE CIRCLE|VERY HEAVY WHITE CIRCLE|EXTREMELY HEAVY WHITE CIRCLE"),
  (0x1F78A, "", "WHITE CIRCLE CONTAINING BLACK SMALL CIRCLE|ROUND TARGET"),
  (0x1F78C, "BLACK ", "TINY SQUARE|SLIGHTLY SMALL SQUARE"),
  (0x1F78E, "", "LIGHT WHITE SQUARE|MEDIUM WHITE SQUARE|BOLD WHITE SQUARE"),
  (0x1F791, "", "HEAVY WHITE SQUARE|VERY HEAVY WHITE SQUARE|EXTREMELY HEAVY WHITE SQUARE"),
  (0x1F794, "WHITE SQUARE CONTAINING BLACK ", "VERY SMALL SQUARE|MEDIUM SQUARE"),
  (0x1F796, "", "SQUARE TARGET"),
  (0x1F797, "BLACK ", "TINY DIAMOND|VERY SMALL DIAMOND|MEDIUM SMALL DIAMOND"),
  (0x1F79A, "WHITE DIAMOND CONTAINING BLACK ", "VERY SMALL DIAMOND|MEDIUM DIAMOND"),
  (0x1F79C, "", "DIAMOND TARGET"),
  (0x1F79D, "BLACK ", "TINY LOZENGE|VERY SMALL LOZENGE|MEDIUM SMALL LOZENGE"),
  (0x1F7A0, "", "WHITE LOZENGE CONTAINING BLACK SMALL LOZENGE|THIN GREEK CROSS|LIGHT GREEK CROSS"),
  (0x1F7A3, "", "MEDIUM GREEK CROSS|BOLD GREEK CROSS|VERY BOLD GREEK CROSS|VERY HEAVY GREEK CROSS"),
  (0x1F7A7, "", "EXTREMELY HEAVY GREEK CROSS|THIN SALTIRE|LIGHT SALTIRE|MEDIUM SALTIRE"),
  (0x1F7AB, "", "BOLD SALTIRE|HEAVY SALTIRE|VERY HEAVY SALTIRE|EXTREMELY HEAVY SALTIRE"),
  (0x1F7AF, "", "LIGHT FIVE SPOKED ASTERISK|MEDIUM FIVE SPOKED ASTERISK|BOLD FIVE SPOKED ASTERISK"),
  (0x1F7B2, "", "HEAVY FIVE SPOKED ASTERISK|VERY HEAVY FIVE SPOKED ASTERISK"),
  (0x1F7B4, "", "EXTREMELY HEAVY FIVE SPOKED ASTERISK|LIGHT SIX SPOKED ASTERISK"),
  (0x1F7B6, "", "MEDIUM SIX SPOKED ASTERISK|BOLD SIX SPOKED ASTERISK|HEAVY SIX SPOKED ASTERISK"),
  (0x1F7B9, "", "VERY HEAVY SIX SPOKED ASTERISK|EXTREMELY HEAVY SIX SPOKED ASTERISK"),
  (0x1F7BB, "", "LIGHT EIGHT SPOKED ASTERISK|MEDIUM EIGHT SPOKED ASTERISK"),
  (0x1F7BD, "", "BOLD EIGHT SPOKED ASTERISK|HEAVY EIGHT SPOKED ASTERISK"),
  (0x1F7BF, "", "VERY HEAVY EIGHT SPOKED ASTERISK|LIGHT THREE POINTED BLACK STAR"),
  (0x1F7C1, "", "MEDIUM THREE POINTED BLACK STAR|THREE POINTED BLACK STAR"),
  (0x1F7C3, "", "MEDIUM THREE POINTED PINWHEEL STAR|LIGHT FOUR POINTED BLACK STAR"),
  (0x1F7C5, "", "MEDIUM FOUR POINTED BLACK STAR|FOUR POINTED BLACK STAR"),
  (0x1F7C7, "", "MEDIUM FOUR POINTED PINWHEEL STAR|REVERSE LIGHT FOUR POINTED PINWHEEL STAR"),
  (0x1F7C9, "", "LIGHT FIVE POINTED BLACK STAR|HEAVY FIVE POINTED BLACK STAR"),
  (0x1F7CB, "", "MEDIUM SIX POINTED BLACK STAR|HEAVY SIX POINTED BLACK STAR"),
  (0x1F7CD, "", "SIX POINTED PINWHEEL STAR|MEDIUM EIGHT POINTED BLACK STAR"),
  (0x1F7CF, "", "HEAVY EIGHT POINTED BLACK STAR|VERY HEAVY EIGHT POINTED BLACK STAR"),
  (0x1F7D1, "", "HEAVY EIGHT POINTED PINWHEEL STAR|LIGHT TWELVE POINTED BLACK STAR"),
  (0x1F7D3, "HEAVY TWELVE POINTED ", "BLACK STAR|PINWHEEL STAR"),
  (0x1F7D5, "", "CIRCLED TRIANGLE"),
  (0x1F7D6, "", "NEGATIVE CIRCLED TRIANGLE|CIRCLED SQUARE|NEGATIVE CIRCLED SQUARE"),
  (0x1F7E0, "LARGE ", "ORANGE CIRCLE|YELLOW CIRCLE"),
  (0x1F7E2, "LARGE ", "GREEN CIRCLE|PURPLE CIRCLE|BROWN CIRCLE|RED SQUARE|BLUE SQUARE"),
  (0x1F7E7, "LARGE ", "ORANGE SQUARE|YELLOW SQUARE|GREEN SQUARE|PURPLE SQUARE|BROWN SQUARE"),
  (0x1F7F0, "", "HEAVY EQUALS SIGN"),
  (0x1F800, "", "LEFTWARDS ARROW WITH SMALL TRIANGLE ARROWHEAD"),
  (0x1F801, "", "UPWARDS ARROW WITH SMALL TRIANGLE ARROWHEAD"),
  (0x1F802, "", "RIGHTWARDS ARROW WITH SMALL TRIANGLE ARROWHEAD"),
  (0x1F803, "", "DOWNWARDS ARROW WITH SMALL TRIANGLE ARROWHEAD"),
  (0x1F804, "", "LEFTWARDS ARROW WITH MEDIUM TRIANGLE ARROWHEAD"),
  (0x1F805, "", "UPWARDS ARROW WITH MEDIUM TRIANGLE ARROWHEAD"),
  (0x1F806, "", "RIGHTWARDS ARROW WITH MEDIUM TRIANGLE ARROWHEAD"),
  (0x1F807, "", "DOWNWARDS ARROW WITH MEDIUM TRIANGLE ARROWHEAD"),
  (0x1F808, "", "LEFTWARDS ARROW WITH LARGE TRIANGLE ARROWHEAD"),
  (0x1F809, "", "UPWARDS ARROW WITH LARGE TRIANGLE ARROWHEAD"),
  (0x1F80A, "", "RIGHTWARDS ARROW WITH LARGE TRIANGLE ARROWHEAD"),
  (0x1F80B, "", "DOWNWARDS ARROW WITH LARGE TRIANGLE ARROWHEAD"),
  (0x1F810, "", "LEFTWARDS ARROW WITH SMALL EQUILATERAL ARROWHEAD"),
  (0x1F811, "", "UPWARDS ARROW WITH SMALL EQUILATERAL ARROWHEAD"),
  (0x1F812, "", "RIGHTWARDS ARROW WITH SMALL EQUILATERAL ARROWHEAD"),
  (0x1F813, "", "DOWNWARDS ARROW WITH SMALL EQUILATERAL ARROWHEAD"),
  (0x1F814, "", "LEFTWARDS ARROW WITH EQUILATERAL ARROWHEAD"),
  (0x1F815, "", "UPWARDS ARROW WITH EQUILATERAL ARROWHEAD"),
  (0x1F816, "", "RIGHTWARDS ARROW WITH EQUILATERAL ARROWHEAD"),
  (0x1F817, "", "DOWNWARDS ARROW WITH EQUILATERAL ARROWHEAD"),
  (0x1F818, "", "HEAVY LEFTWARDS ARROW WITH EQUILATERAL ARROWHEAD"),
  (0x1F819, "", "HEAVY UPWARDS ARROW WITH EQUILATERAL ARROWHEAD"),
  (0x1F81A, "", "HEAVY RIGHTWARDS ARROW WITH EQUILATERAL ARROWHEAD"),
  (0x1F81B, "", "HEAVY DOWNWARDS ARROW WITH EQUILATERAL ARROWHEAD"),
  (0x1F81C, "", "HEAVY LEFTWARDS ARROW WITH LARGE EQUILATERAL ARROWHEAD"),
  (0x1F81D, "", "HEAVY UPWARDS ARROW WITH LARGE EQUILATERAL ARROWHEAD"),
  (0x1F81E, "", "HEAVY RIGHTWARDS ARROW WITH LARGE EQUILATERAL ARROWHEAD"),
  (0x1F81F, "", "HEAVY DOWNWARDS ARROW WITH LARGE EQUILATERAL ARROWHEAD"),
  (0x1F820, "", "LEFTWARDS TRIANGLE-HEADED ARROW WITH NARROW SHAFT"),
  (0x1F821, "", "UPWARDS TRIANGLE-HEADED ARROW WITH NARROW SHAFT"),
  (0x1F822, "", "RIGHTWARDS TRIANGLE-HEADED ARROW WITH NARROW SHAFT"),
  (0x1F823, "", "DOWNWARDS TRIANGLE-HEADED ARROW WITH NARROW SHAFT"),
  (0x1F824, "", "LEFTWARDS TRIANGLE-HEADED ARROW WITH MEDIUM SHAFT"),
  (0x1F825, "", "UPWARDS TRIANGLE-HEADED ARROW WITH MEDIUM SHAFT"),
  (0x1F826, "", "RIGHTWARDS TRIANGLE-HEADED ARROW WITH MEDIUM SHAFT"),
  (0x1F827, "", "DOWNWARDS TRIANGLE-HEADED ARROW WITH MEDIUM SHAFT"),
  (0x1F828, "", "LEFTWARDS TRIANGLE-HEADED ARROW WITH BOLD SHAFT"),
  (0x1F829, "", "UPWARDS TRIANGLE-HEADED ARROW WITH BOLD SHAFT"),
  (0x1F82A, "", "RIGHTWARDS TRIANGLE-HEADED ARROW WITH BOLD SHAFT"),
  (0x1F82B, "", "DOWNWARDS TRIANGLE-HEADED ARROW WITH BOLD SHAFT"),
  (0x1F82C, "", "LEFTWARDS TRIANGLE-HEADED ARROW WITH HEAVY SHAFT"),
  (0x1F82D, "", "UPWARDS TRIANGLE-HEADED ARROW WITH HEAVY SHAFT"),
  (0x1F82E, "", "RIGHTWARDS TRIANGLE-HEADED ARROW WITH HEAVY SHAFT"),
  (0x1F82F, "", "DOWNWARDS TRIANGLE-HEADED ARROW WITH HEAVY SHAFT"),
  (0x1F830, "", "LEFTWARDS TRIANGLE-HEADED ARROW WITH VERY HEAVY SHAFT"),
  (0x1F831, "", "UPWARDS TRIANGLE-HEADED ARROW WITH VERY HEAVY SHAFT"),
  (0x1F832, "", "RIGHTWARDS TRIANGLE-HEADED ARROW WITH VERY HEAVY SHAFT"),
  (0x1F833, "", "DOWNWARDS TRIANGLE-HEADED ARROW WITH VERY HEAVY SHAFT"),
  (0x1F834, "", "LEFTWARDS FINGER-POST ARROW|UPWARDS FINGER-POST ARROW"),
  (0x1F836, "", "RIGHTWARDS FINGER-POST ARROW|DOWNWARDS FINGER-POST ARROW|LEFTWARDS SQUARED ARROW"),
  (0x1F839, "", "UPWARDS SQUARED ARROW|RIGHTWARDS SQUARED ARROW|DOWNWARDS SQUARED ARROW"),
  (0x1F83C, "", "LEFTWARDS COMPRESSED ARROW|UPWARDS COMPRESSED ARROW|RIGHTWARDS COMPRESSED ARROW"),
  (0x1F83F, "", "DOWNWARDS COMPRESSED ARROW|LEFTWARDS HEAVY COMPRESSED ARROW"),
  (0x1F841, "", "UPWARDS HEAVY COMPRESSED ARROW|RIGHTWARDS HEAVY COMPRESSED ARROW"),
  (0x1F843, "", "DOWNWARDS HEAVY COMPRESSED ARROW|LEFTWARDS HEAVY ARROW"),
  (0x1F845, "", "UPWARDS HEAVY ARROW|RIGHTWARDS HEAVY ARROW|DOWNWARDS HEAVY ARROW"),
  (0x1F850, "", "LEFTWARDS SANS-SERIF ARROW|UPWARDS SANS-SERIF ARROW|RIGHTWARDS SANS-SERIF ARROW"),
  (0x1F853, "", "DOWNWARDS SANS-SERIF ARROW|NORTH WEST SANS-SERIF ARROW"),
  (0x1F855, "", "NORTH EAST SANS-SERIF ARROW|SOUTH EAST SANS-SERIF ARROW"),
  (0x1F857, "", "SOUTH WEST SANS-SERIF ARROW|LEFT RIGHT SANS-SERIF ARROW|UP DOWN SANS-SERIF ARROW"),
  (0x1F860, "WIDE-HEADED ", "LEFTWARDS LIGHT BARB ARROW|UPWARDS LIGHT BARB ARROW"),
  (0x1F862, "WIDE-HEADED ", "RIGHTWARDS LIGHT BARB ARROW|DOWNWARDS LIGHT BARB ARROW"),
  (0x1F864, "WIDE-HEADED NORTH ", "WEST LIGHT BARB ARROW|EAST LIGHT BARB ARROW"),
  (0x1F866, "WIDE-HEADED SOUTH ", "EAST LIGHT BARB ARROW|WEST LIGHT BARB ARROW"),
  (0x1F868, "WIDE-HEADED ", "LEFTWARDS BARB ARROW|UPWARDS BARB ARROW|RIGHTWARDS BARB ARROW"),
  (0x1F86B, "WIDE-HEADED ", "DOWNWARDS BARB ARROW|NORTH WEST BARB ARROW|NORTH EAST BARB ARROW"),
  (0x1F86E, "WIDE-HEADED SOUTH ", "EAST BARB ARROW|WEST BARB ARROW"),
  (0x1F870, "WIDE-HEADED ", "LEFTWARDS MEDIUM BARB ARROW|UPWARDS MEDIUM BARB ARROW"),
  (0x1F872, "WIDE-HEADED ", "RIGHTWARDS MEDIUM BARB ARROW|DOWNWARDS MEDIUM BARB ARROW"),
  (0x1F874, "WIDE-HEADED NORTH ", "WEST MEDIUM BARB ARROW|EAST MEDIUM BARB ARROW"),
  (0x1F876, "WIDE-HEADED SOUTH ", "EAST MEDIUM BARB ARROW|WEST MEDIUM BARB ARROW"),
  (0x1F878, "WIDE-HEADED ", "LEFTWARDS HEAVY BARB ARROW|UPWARDS HEAVY BARB ARROW"),
  (0x1F87A, "WIDE-HEADED ", "RIGHTWARDS HEAVY BARB ARROW|DOWNWARDS HEAVY BARB ARROW"),
  (0x1F87C, "WIDE-HEADED NORTH ", "WEST HEAVY BARB ARROW|EAST HEAVY BARB ARROW"),
  (0x1F87E, "WIDE-HEADED SOUTH ", "EAST HEAVY BARB ARROW|WEST HEAVY BARB ARROW"),
  (0x1F880, "WIDE-HEADED ", "LEFTWARDS VERY HEAVY BARB ARROW|UPWARDS VERY HEAVY BARB ARROW"),
  (0x1F882, "WIDE-HEADED ", "RIGHTWARDS VERY HEAVY BARB ARROW|DOWNWARDS VERY HEAVY BARB ARROW"),
  (0x1F884, "WIDE-HEADED NORTH ", "WEST VERY HEAVY BARB ARROW|EAST VERY HEAVY BARB ARROW"),
  (0x1F886, "WIDE-HEADED SOUTH ", "EAST VERY HEAVY BARB ARROW|WEST VERY HEAVY BARB ARROW"),
  (0x1F890, "", "LEFTWARDS TRIANGLE ARROWHEAD"),
  (0x1F891, "", "UPWARDS TRIANGLE ARROWHEAD|RIGHTWARDS TRIANGLE ARROWHEAD"),
  (0x1F893, "", "DOWNWARDS TRIANGLE ARROWHEAD|LEFTWARDS WHITE ARROW WITHIN TRIANGLE ARROWHEAD"),
  (0x1F895, "", "UPWARDS WHITE ARROW WITHIN TRIANGLE ARROWHEAD"),
  (0x1F896, "", "RIGHTWARDS WHITE ARROW WITHIN TRIANGLE ARROWHEAD"),
  (0x1F897, "", "DOWNWARDS WHITE ARROW WITHIN TRIANGLE ARROWHEAD"),
  (0x1F898, "", "LEFTWARDS ARROW WITH NOTCHED TAIL|UPWARDS ARROW WITH NOTCHED TAIL"),
  (0x1F89A, "", "RIGHTWARDS ARROW WITH NOTCHED TAIL|DOWNWARDS ARROW WITH NOTCHED TAIL"),
  (0x1F89C, "HEAVY ARROW SHAFT WIDTH ", "ONE|TWO THIRDS|ONE HALF|ONE THIRD"),
  (0x1F8A0, "", "LEFTWARDS BOTTOM-SHADED WHITE ARROW"),
  (0x1F8A1, "", "RIGHTWARDS BOTTOM SHADED WHITE ARROW|LEFTWARDS TOP SHADED WHITE ARROW"),
  (0x1F8A3, "", "RIGHTWARDS TOP SHADED WHITE ARROW|LEFTWARDS LEFT-SHADED WHITE ARROW"),
  (0x1F8A5, "", "RIGHTWARDS RIGHT-SHADED WHITE ARROW|LEFTWARDS RIGHT-SHADED WHITE ARROW"),
  (0x1F8A7, "", "RIGHTWARDS LEFT-SHADED WHITE ARROW|LEFTWARDS BACK-TILTED SHADOWED WHITE ARROW"),
  (0x1F8A9, "", "RIGHTWARDS BACK-TILTED SHADOWED WHITE ARROW"),
  (0x1F8AA, "", "LEFTWARDS FRONT-TILTED SHADOWED WHITE ARROW"),
  (0x1F8AB, "", "RIGHTWARDS FRONT-TILTED SHADOWED WHITE ARROW"),
  (0x1F8AC, "WHITE ARROW SHAFT WIDTH ", "ONE|TWO THIRDS"),
  (0x1F8B0, "ARROW POINTING ", "UPWARDS THEN NORTH WEST|RIGHTWARDS THEN CURVING SOUTH WEST"),
  (0x1F900, "CIRCLED CROSS ", "FORMEE WITH FOUR DOTS|FORMEE WITH TWO DOTS|FORMEE"),
  (0x1F903, "LEFT HALF CIRCLE WITH ", "FOUR DOTS|THREE DOTS|TWO DOTS|DOT"),
  (0x1F907, "", "LEFT HALF CIRCLE"),
  (0x1F908, "DOWNWARD FACING ", "HOOK|NOTCHED HOOK|HOOK WITH DOT|NOTCHED HOOK WITH DOT"),
  (0x1F90C, "", "PINCHED FINGERS|WHITE HEART|BROWN HEART"),
  (0x1F90F, "", "PINCHING HAND|ZIPPER-MOUTH FACE|MONEY-MOUTH FACE|FACE WITH THERMOMETER|NERD FACE"),
  (0x1F914, "", "THINKING FACE|FACE WITH HEAD-BANDAGE|ROBOT FACE|HUGGING FACE|SIGN OF THE HORNS"),
  (0x1F919, "", "CALL ME HAND|RAISED BACK OF HAND|LEFT-FACING FIST|RIGHT-FACING FIST"),
  (0x1F91D, "", "HANDSHAKE|HAND WITH INDEX AND MIDDLE FINGERS CROSSED|I LOVE YOU HAND SIGN"),
  (0x1F920, "", "FACE WITH COWBOY HAT|CLOWN FACE|NAUSEATED FACE|ROLLING ON THE FLOOR LAUGHING"),
  (0x1F924, "", "DROOLING FACE|LYING FACE|FACE PALM|SNEEZING FACE|FACE WITH ONE EYEBROW RAISED"),
  (0x1F929, "GRINNING FACE WITH ", "STAR EYES|ONE LARGE AND ONE SMALL EYE"),
  (0x1F92B, "", "FACE WITH FINGER COVERING CLOSED LIPS|SERIOUS FACE WITH SYMBOLS COVERING MOUTH"),
  (0x1F92D, "", "SMILING FACE WITH SMILING EYES AND HAND COVERING MOUTH"),
  (0x1F92E, "", "FACE WITH OPEN MOUTH VOMITING|SHOCKED FACE WITH EXPLODING HEAD"),
  (0x1F930, "", "PREGNANT WOMAN|BREAST-FEEDING|PALMS UP TOGETHER|SELFIE|PRINCE|MAN IN TUXEDO"),
  (0x1F936, "", "MOTHER CHRISTMAS|SHRUG|PERSON DOING CARTWHEEL|JUGGLING|FENCER|MODERN PENTATHLON"),
  (0x1F93C, "", "WRESTLERS|WATER POLO|HANDBALL|DIVING MASK|WILTED FLOWER|DRUM WITH DRUMSTICKS"),
  (0x1F942, "", "CLINKING GLASSES|TUMBLER GLASS|SPOON|GOAL NET|RIFLE|FIRST PLACE MEDAL"),
  (0x1F948, "", "SECOND PLACE MEDAL|THIRD PLACE MEDAL|BOXING GLOVE|MARTIAL ARTS UNIFORM"),
  (0x1F94C, "", "CURLING STONE|LACROSSE STICK AND BALL|SOFTBALL|FLYING DISC|CROISSANT|AVOCADO"),
  (0x1F952, "", "CUCUMBER|BACON|POTATO|CARROT|BAGUETTE BREAD|GREEN SALAD|SHALLOW PAN OF FOOD"),
  (0x1F959, "", "STUFFED FLATBREAD|EGG|GLASS OF MILK|PEANUTS|KIWIFRUIT|PANCAKES"),
  (0x1F95F, "", "DUMPLING|FORTUNE COOKIE|TAKEOUT BOX|CHOPSTICKS|BOWL WITH SPOON|CUP WITH STRAW"),
  (0x1F965, "", "COCONUT|BROCCOLI|PIE|PRETZEL|CUT OF MEAT|SANDWICH|CANNED FOOD|LEAFY GREEN"),
  (0x1F96D, "", "MANGO|MOON CAKE|BAGEL|SMILING FACE WITH SMILING EYES AND THREE HEARTS"),
  (0x1F971, "", "YAWNING FACE|SMILING FACE WITH TEAR"),
  (0x1F973, "FACE WITH ", "PARTY HORN AND PARTY HAT|UNEVEN EYES AND WAVY MOUTH"),
  (0x1F975, "", "OVERHEATED FACE|FREEZING FACE|NINJA|DISGUISED FACE|FACE HOLDING BACK TEARS"),
  (0x1F97A, "", "FACE WITH PLEADING EYES|SARI|LAB COAT|GOGGLES|HIKING BOOT"),
  (0x1F97F, "", "FLAT SHOE|CRAB|LION FACE|SCORPION|TURKEY|UNICORN FACE|EAGLE|DUCK|BAT|SHARK"),
  (0x1F989, "", "OWL|FOX FACE|BUTTERFLY|DEER|GORILLA|LIZARD|RHINOCEROS|SHRIMP|SQUID|GIRAFFE FACE"),
  (0x1F993, "", "ZEBRA FACE|HEDGEHOG|SAUROPOD|T-REX|CRICKET|KANGAROO|LLAMA|PEACOCK|HIPPOPOTAMUS"),
  (0x1F99C, "", "PARROT|RACCOON|LOBSTER|MOSQUITO|MICROBE|BADGER|SWAN|MAMMOTH|DODO|SLOTH"),
  (0x1F9A6, "", "OTTER|ORANGUTAN|SKUNK|FLAMINGO|OYSTER|BEAVER|BISON|SEAL|GUIDE DOG|PROBING CANE"),
  (0x1F9B0, "EMOJI COMPONENT ", "RED HAIR|CURLY HAIR|BALD|WHITE HAIR"),
  (0x1F9B4, "", "BONE|LEG|FOOT|TOOTH|SUPERHERO|SUPERVILLAIN|SAFETY VEST|EAR WITH HEARING AID"),
  (0x1F9BC, "", "MOTORIZED WHEELCHAIR|MANUAL WHEELCHAIR|MECHANICAL ARM|MECHANICAL LEG"),
  (0x1F9C0, "", "CHEESE WEDGE|CUPCAKE|SALT SHAKER|BEVERAGE BOX|GARLIC|ONION|FALAFEL|WAFFLE"),
  (0x1F9C8, "", "BUTTER|MATE DRINK|ICE CUBE|BUBBLE TEA|TROLL|STANDING PERSON|KNEELING PERSON"),
  (0x1F9CF, "", "DEAF PERSON|FACE WITH MONOCLE|ADULT|CHILD|OLDER ADULT|BEARDED PERSON"),
  (0x1F9D5, "PERSON ", "WITH HEADSCARF|IN STEAMY ROOM|CLIMBING|IN LOTUS POSITION"),
  (0x1F9D9, "", "MAGE|FAIRY|VAMPIRE|MERPERSON|ELF|GENIE|ZOMBIE|BRAIN|ORANGE HEART|BILLED CAP"),
  (0x1F9E3, "", "SCARF|GLOVES|COAT|SOCKS|RED GIFT ENVELOPE|FIRECRACKER|JIGSAW PUZZLE PIECE"),
  (0x1F9EA, "", "TEST TUBE|PETRI DISH|DNA DOUBLE HELIX|COMPASS|ABACUS|FIRE EXTINGUISHER|TOOLBOX"),
  (0x1F9F1, "", "BRICK|MAGNET|LUGGAGE|LOTION BOTTLE|SPOOL OF THREAD|BALL OF YARN|SAFETY PIN"),
  (0x1F9F8, "", "TEDDY BEAR|BROOM|BASKET|ROLL OF PAPER|BAR OF SOAP|SPONGE|RECEIPT|NAZAR AMULET"),
  (0x1FA00, "NEUTRAL CHESS ", "KING|QUEEN|ROOK|BISHOP|KNIGHT|PAWN"),
  (0x1FA06, "", "WHITE CHESS KNIGHT ROTATED FORTY-FIVE DEGREES"),
  (0x1FA07, "", "BLACK CHESS KNIGHT ROTATED FORTY-FIVE DEGREES"),
  (0x1FA08, "", "NEUTRAL CHESS KNIGHT ROTATED FORTY-FIVE DEGREES"),
  (0x1FA09, "WHITE CHESS ", "KING ROTATED NINETY DEGREES|QUEEN ROTATED NINETY DEGREES"),
  (0x1FA0B, "WHITE CHESS ", "ROOK ROTATED NINETY DEGREES|BISHOP ROTATED NINETY DEGREES"),
  (0x1FA0D, "WHITE CHESS ", "KNIGHT ROTATED NINETY DEGREES|PAWN ROTATED NINETY DEGREES"),
  (0x1FA0F, "BLACK CHESS ", "KING ROTATED NINETY DEGREES|QUEEN ROTATED NINETY DEGREES"),
  (0x1FA11, "BLACK CHESS ", "ROOK ROTATED NINETY DEGREES|BISHOP ROTATED NINETY DEGREES"),
  (0x1FA13, "BLACK CHESS ", "KNIGHT ROTATED NINETY DEGREES|PAWN ROTATED NINETY DEGREES"),
  (0x1FA15, "NEUTRAL CHESS ", "KING ROTATED NINETY DEGREES|QUEEN ROTATED NINETY DEGREES"),
  (0x1FA17, "NEUTRAL CHESS ", "ROOK ROTATED NINETY DEGREES|BISHOP ROTATED NINETY DEGREES"),
  (0x1FA19, "NEUTRAL CHESS ", "KNIGHT ROTATED NINETY DEGREES|PAWN ROTATED NINETY DEGREES"),
  (0x1FA1B, "", "WHITE CHESS KNIGHT ROTATED ONE HUNDRED THIRTY-FIVE DEGREES"),
  (0x1FA1C, "", "BLACK CHESS KNIGHT ROTATED ONE HUNDRED THIRTY-FIVE DEGREES"),
  (0x1FA1D, "", "NEUTRAL CHESS KNIGHT ROTATED ONE HUNDRED THIRTY-FIVE DEGREES"),
  (0x1FA1E, "WHITE CHESS TURNED ", "KING|QUEEN|ROOK|BISHOP|KNIGHT|PAWN"),
  (0x1FA24, "BLACK CHESS TURNED ", "KING|QUEEN|ROOK|BISHOP|KNIGHT|PAWN"),
  (0x1FA2A, "NEUTRAL CHESS TURNED ", "KING|QUEEN|ROOK|BISHOP|KNIGHT|PAWN"),
  (0x1FA30, "", "WHITE CHESS KNIGHT ROTATED TWO HUNDRED TWENTY-FIVE DEGREES"),
  (0x1FA31, "", "BLACK CHESS KNIGHT ROTATED TWO HUNDRED TWENTY-FIVE DEGREES"),
  (0x1FA32, "", "NEUTRAL CHESS KNIGHT ROTATED TWO HUNDRED TWENTY-FIVE DEGREES"),
  (0x1FA33, "", "WHITE CHESS KING ROTATED TWO HUNDRED SEVENTY DEGREES"),
  (0x1FA34, "", "WHITE CHESS QUEEN ROTATED TWO HUNDRED SEVENTY DEGREES"),
  (0x1FA35, "", "WHITE CHESS ROOK ROTATED TWO HUNDRED SEVENTY DEGREES"),
  (0x1FA36, "", "WHITE CHESS BISHOP ROTATED TWO HUNDRED SEVENTY DEGREES"),
  (0x1FA37, "", "WHITE CHESS KNIGHT ROTATED TWO HUNDRED SEVENTY DEGREES"),
  (0x1FA38, "", "WHITE CHESS PAWN ROTATED TWO HUNDRED SEVENTY DEGREES"),
  (0x1FA39, "", "BLACK CHESS KING ROTATED TWO HUNDRED SEVENTY DEGREES"),
  (0x1FA3A, "", "BLACK CHESS QUEEN ROTATED TWO HUNDRED SEVENTY DEGREES"),
  (0x1FA3B, "", "BLACK CHESS ROOK ROTATED TWO HUNDRED SEVENTY DEGREES"),
  (0x1FA3C, "", "BLACK CHESS BISHOP ROTATED TWO HUNDRED SEVENTY DEGREES"),
  (0x1FA3D, "", "BLACK CHESS KNIGHT ROTATED TWO HUNDRED SEVENTY DEGREES"),
  (0x1FA3E, "", "BLACK CHESS PAWN ROTATED TWO HUNDRED SEVENTY DEGREES"),
  (0x1FA3F, "", "NEUTRAL CHESS KING ROTATED TWO HUNDRED SEVENTY DEGREES"),
  (0x1FA40, "", "NEUTRAL CHESS QUEEN ROTATED TWO HUNDRED SEVENTY DEGREES"),
  (0x1FA41, "", "NEUTRAL CHESS ROOK ROTATED TWO HUNDRED SEVENTY DEGREES"),
  (0x1FA42, "", "NEUTRAL CHESS BISHOP ROTATED TWO HUNDRED SEVENTY DEGREES"),
  (0x1FA43, "", "NEUTRAL CHESS KNIGHT ROTATED TWO HUNDRED SEVENTY DEGREES"),
  (0x1FA44, "", "NEUTRAL CHESS PAWN ROTATED TWO HUNDRED SEVENTY DEGREES"),
  (0x1FA45, "", "WHITE CHESS KNIGHT ROTATED THREE HUNDRED FIFTEEN DEGREES"),
  (0x1FA46, "", "BLACK CHESS KNIGHT ROTATED THREE HUNDRED FIFTEEN DEGREES"),
  (0x1FA47, "", "NEUTRAL CHESS KNIGHT ROTATED THREE HUNDRED FIFTEEN DEGREES"),
  (0x1FA48, "", "WHITE CHESS EQUIHOPPER|BLACK CHESS EQUIHOPPER"),
  (0x1FA4A, "", "NEUTRAL CHESS EQUIHOPPER|WHITE CHESS EQUIHOPPER ROTATED NINETY DEGREES"),
  (0x1FA4C, "", "BLACK CHESS EQUIHOPPER ROTATED NINETY DEGREES"),
  (0x1FA4D, "", "NEUTRAL CHESS EQUIHOPPER ROTATED NINETY DEGREES"),
  (0x1FA4E, "WHITE CHESS ", "KNIGHT-QUEEN|KNIGHT-ROOK|KNIGHT-BISHOP"),
  (0x1FA51, "BLACK CHESS ", "KNIGHT-QUEEN|KNIGHT-ROOK|KNIGHT-BISHOP"),
  (0x1FA60, "XIANGQI RED ", "GENERAL|MANDARIN|ELEPHANT|HORSE|CHARIOT|CANNON|SOLDIER"),
  (0x1FA67, "XIANGQI BLACK ", "GENERAL|MANDARIN|ELEPHANT|HORSE|CHARIOT|CANNON|SOLDIER"),
  (0x1FA70, "", "BALLET SHOES|ONE-PIECE SWIMSUIT|BRIEFS|SHORTS|THONG SANDAL"),
  (0x1FA78, "", "DROP OF BLOOD|ADHESIVE BANDAGE|STETHOSCOPE|X-RAY|CRUTCH"),
  (0x1FA80, "", "YO-YO|KITE|PARACHUTE|BOOMERANG|MAGIC WAND|PINATA|NESTING DOLLS"),
  (0x1FA90, "", "RINGED PLANET|CHAIR|RAZOR|AXE|DIYA LAMP"),
  (0x1FA95, "", "BANJO|MILITARY HELMET|ACCORDION|LONG DRUM|COIN|CARPENTRY SAW|SCREWDRIVER|LADDER"),
  (0x1FA9D, "", "HOOK|MIRROR|WINDOW|PLUNGER|SEWING NEEDLE|KNOT|BUCKET|MOUSE TRAP|TOOTHBRUSH"),
  (0x1FAA6, "", "HEADSTONE|PLACARD|ROCK|MIRROR BALL|IDENTIFICATION CARD|LOW BATTERY|HAMSA"),
  (0x1FAB0, "", "FLY|WORM"),
  (0x1FAB2, "", "BEETLE|COCKROACH|POTTED PLANT|WOOD|FEATHER|LOTUS|CORAL|EMPTY NEST|NEST WITH EGGS"),
  (0x1FAC0, "", "ANATOMICAL HEART"),
  (0x1FAC1, "", "LUNGS|PEOPLE HUGGING|PREGNANT MAN|PREGNANT PERSON|PERSON WITH CROWN"),
  (0x1FAD0, "", "BLUEBERRIES"),
  (0x1FAD1, "", "BELL PEPPER|OLIVE|FLATBREAD|TAMALE|FONDUE|TEAPOT|POURING LIQUID|BEANS|JAR"),
  (0x1FAE0, "", "MELTING FACE|SALUTING FACE"),
  (0x1FAE2, "FACE WITH ", "OPEN EYES AND HAND OVER MOUTH|PEEKING EYE|DIAGONAL MOUTH"),
  (0x1FAE5, "", "DOTTED LINE FACE|BITING LIP|BUBBLES"),
  (0x1FAF0, "", "HAND WITH INDEX FINGER AND THUMB CROSSED|RIGHTWARDS HAND|LEFTWARDS HAND"),
  (0x1FAF3, "", "PALM DOWN HAND|PALM UP HAND|INDEX POINTING AT THE VIEWER|HEART HANDS")]

end ClientPlan.Text
